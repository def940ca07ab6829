import Unbundled.Http.Target
import Unbundled.Server

/-!
How requests reach the server: which methods and targets it answers, and what an answer carries.
-/
namespace Unbundled.Http

/-- An answer; headers that it does not carry are `none`. -/
structure Answer where
  status : Nat
  contentType : Option String := none
  cache : Option CachePolicy := none
  allow : Option String := none
  body : List UInt8 := []
  deriving DecidableEq, Repr

namespace Answer

def ofResponse (r : Response) : Answer :=
  { status := r.status, contentType := some r.contentType, cache := some r.cache, body := r.body }

def withoutBody (a : Answer) : Answer := { a with body := [] }

/-- There is nothing under a target that is no path. -/
def notFound : Answer := { status := 404 }

def notAllowed : Answer := { status := 405, allow := some "GET,HEAD" }

end Answer

/-- Answers a request. `HEAD` is answered as `GET`, without the body. -/
def answer (config : Config) (method : String) : Target → Lookup Answer
  | .path url =>
    if method = "GET" then Answer.ofResponse <$> Server.respond config url
    else if method = "HEAD" then
      (fun r => (Answer.ofResponse r).withoutBody) <$> Server.respond config url
    else return .notAllowed
  | .authority | .asterisk => return .notFound

end Unbundled.Http
