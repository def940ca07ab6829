import Unbundled.Proofs.Component.TwoModules
import Unbundled.Proofs.Url.Form
import Unbundled.Proofs.Url.Plain

/-!
# What a query changes

Of all that stands behind the path of a URL, an answer depends on one bit: whether a component is
asked for its render module. In a form that bit is the value of the first parameter `type`.
-/

namespace Unbundled

/-! ## URLs with a query -/

namespace Url

/-- The URL of a path with a query and, where there is one, a fragment. -/
def withQuery (path query : String) (fragment? : Option String) : String :=
  path ++ "?" ++ query ++ fragment?.elim "" ("#" ++ ·)

/-- What stands behind the query. -/
def fragmentChars (fragment? : Option String) : List Char :=
  fragment?.elim [] ('#' :: ·.toList)

variable {path query : String} {fragment? : Option String}

lemma toList_withQuery : (withQuery path query fragment?).toList =
    path.toList ++ '?' :: (query.toList ++ fragmentChars fragment?) := by
  cases fragment? <;> simp [withQuery, fragmentChars]

lemma head_fragmentChars : ∀ c ∈ (fragmentChars fragment?).head?, decide (c ≠ '#') = false := by
  cases fragment? <;> simp [fragmentChars]

lemma path_withQuery (hquery : '?' ∉ path.toList) (hfragment : '#' ∉ path.toList) :
    Url.path (withQuery path query fragment?) = path := by
  have hplain : pathChars path.toList = path.toList := by
    rw [← String.toList_ofList (l := pathChars path.toList), ← Url.path,
      path_of_plain hquery hfragment]
  have hall := all_pathChars path.toList
  rw [hplain] at hall
  rw [Url.path, toList_withQuery, pathChars, Text.takeWhile_append_stop hall (by simp),
    String.ofList_toList]

lemma all_ne_mark {mark : Char} {cs : List Char} (h : mark ∉ cs) : cs.all (· ≠ mark) :=
  List.all_eq_true.2 fun _ hc => decide_eq_true fun heq => h (heq ▸ hc)

lemma queryChars?_withQuery (hquery : '?' ∉ path.toList) (hfragment : '#' ∉ query.toList) :
    queryChars? (withQuery path query fragment?).toList = some query.toList := by
  rw [toList_withQuery, queryChars?, Text.dropWhile_append_stop (all_ne_mark hquery) (by simp)]
  exact congrArg some (Text.takeWhile_append_stop (all_ne_mark hfragment) head_fragmentChars)

/-- The value of the first pair with the key `type`. -/
def firstType? (pairs : List (String × String)) : Option String :=
  (pairs.find? (·.1 = "type")).map (·.2)

lemma type?_withQuery (hquery : '?' ∉ path.toList) {pairs : List (String × String)}
    (h : WritesForm pairs query) : type? (withQuery path query fragment?) = firstType? pairs := by
  have hkey : (fun pair : String × String => decide (pair.1.toList = "type".toList)) =
      fun pair => decide (pair.1 = "type") :=
    funext fun pair => decide_eq_decide.2 String.toList_inj
  rw [type?, queryChars?_withQuery hquery h.not_mem]
  change ((formPairs query.toList).find? (·.1 = "type".toList)).bind
    (fun pair => some (String.ofList pair.2)) = _
  rw [h.formPairs_eq, List.find?_map]
  change ((pairs.find? fun pair => decide (pair.1.toList = "type".toList)).map
    fun pair => (pair.1.toList, pair.2.toList)).bind (fun pair => some (String.ofList pair.2)) = _
  rw [hkey, firstType?]
  cases pairs.find? (·.1 = "type") <;> simp

lemma type?_of_plain (hquery : '?' ∉ path.toList) : type? path = none := by
  have hnone : queryChars? path.toList = none := by
    have hdrop : path.toList.dropWhile (· ≠ '?') = [] :=
      List.dropWhile_eq_nil_iff.2 (List.all_eq_true.1 (all_ne_mark hquery))
    rw [queryChars?, hdrop]
  rw [type?, hnone]
  rfl

end Url

/-! ## Answers -/

namespace Server

variable {config : Config} {url url' : String}

/-- An answer depends on the path and, for a component, on the module that is asked for. -/
lemma respond_congr (hpath : Url.path url = Url.path url')
    (hpart : Artifact.ofUrl url = .component →
      Component.Part.ofType (Url.type? url) = Component.Part.ofType (Url.type? url')) :
    respond config url = respond config url' := by
  have hkind : Artifact.ofUrl url = Artifact.ofUrl url' := by
    rw [Artifact.ofUrl, hpath, Artifact.ofUrl]
  have hhandle : handle config url = handle config url' := by
    rw [handle, handle, ← hpath, ← hkind]
    cases hcomponent : Artifact.ofUrl url with
    | component =>
      have hsplit (path source : String) : Component.split path source (Url.type? url) =
          Component.split path source (Url.type? url') := by
        rw [Component.split, Component.split, hpart hcomponent]
      simp only [serveComponent, hsplit]
    | _ => rfl
  rw [respond, respond, hhandle, hkind]

/-- Behind the path, an answer depends on the first parameter `type` of the query alone: it is that
of the URL which asks for the render module, or that of the path. Where the path is none of a
component, it is that of the path whatever the query, be it a form or not. Answers are compared as
computations, so they are the same on every state of the files. -/
theorem respond_withQuery (config : Config) {path : String} (hquery : '?' ∉ path.toList)
    (hfragment : '#' ∉ path.toList) :
    (∀ pairs query fragment?, Url.WritesForm pairs query →
      respond config (Url.withQuery path query fragment?) =
        respond config
          (if Url.firstType? pairs = some "template" then path ++ "?type=template" else path)) ∧
    (Artifact.ofUrl path ≠ .component → ∀ query fragment?,
      respond config (Url.withQuery path query fragment?) = respond config path) := by
  have hpath (query : String) (fragment? : Option String) :
      Url.path (Url.withQuery path query fragment?) = Url.path path := by
    rw [Url.path_withQuery hquery hfragment, Url.path_of_plain hquery hfragment]
  constructor
  · intro pairs query fragment? hform
    have htype : Url.type? (Url.withQuery path query fragment?) = Url.firstType? pairs :=
      Url.type?_withQuery hquery hform
    split_ifs with hrender
    · have hurl : renderUrl path = path ++ "?type=template" := by
        rw [renderUrl, Url.path_of_plain hquery hfragment]
      rw [← hurl]
      refine respond_congr ((hpath query fragment?).trans (path_renderUrl path).symm) fun _ => ?_
      rw [htype, hrender, type?_renderUrl]
    · refine respond_congr (hpath query fragment?) fun _ => ?_
      rw [htype, Url.type?_of_plain hquery]
      exact if_neg hrender
  · intro hkind query fragment?
    refine respond_congr (hpath query fragment?) fun hcomponent => absurd ?_ hkind
    rwa [Artifact.ofUrl, hpath query fragment?, ← Artifact.ofUrl] at hcomponent

/-- A component with another parameter and two of the name `type`, and a script with a query that
is no form. -/
theorem respond_withQuery_types :
    '?' ∉ "/App.vue".toList ∧ '#' ∉ "/App.vue".toList ∧
      Url.WritesForm [("a b", "&"), ("type", "template"), ("type", "script")]
        "a+b=%26&type=template&type=script" ∧
      respond (Config.ofEntry ⟨"/p"⟩ ⟨"index.html"⟩)
          "/App.vue?a+b=%26&type=template&type=script#type" =
        respond (Config.ofEntry ⟨"/p"⟩ ⟨"index.html"⟩) "/App.vue?type=template" ∧
      respond (Config.ofEntry ⟨"/p"⟩ ⟨"index.html"⟩) "/main.js?type=%zz&?type=template" =
        respond (Config.ofEntry ⟨"/p"⟩ ⟨"index.html"⟩) "/main.js" := by
  have hform : Url.WritesForm [("a b", "&"), ("type", "template"), ("type", "script")]
      "a+b=%26&type=template&type=script" := by
    have hwritten : Url.formOf [("a b", "&"), ("type", "template"), ("type", "script")] =
        "a+b=%26&type=template&type=script" := by decide +kernel
    exact hwritten ▸ Url.writesForm_formOf _
  have hquery : '?' ∉ "/App.vue".toList := by decide
  have hfragment : '#' ∉ "/App.vue".toList := by decide
  have hplain : '?' ∉ "/main.js".toList ∧ '#' ∉ "/main.js".toList := by decide
  have hcomponent := (respond_withQuery (Config.ofEntry ⟨"/p"⟩ ⟨"index.html"⟩) hquery
    hfragment).1 _ _ (some "type") hform
  have hscript := (respond_withQuery (Config.ofEntry ⟨"/p"⟩ ⟨"index.html"⟩) hplain.1
    hplain.2).2 (by decide +kernel) "type=%zz&?type=template" none
  refine ⟨hquery, hfragment, hform, ?_, ?_⟩
  · rw [if_pos (by decide)] at hcomponent
    exact hcomponent
  · exact hscript

end Server

end Unbundled
