import Unbundled.Script.Node

/-!
Walking over trees: collecting something from every node.
-/
namespace Unbundled.Script

mutual

/-- What `f` finds at `n` and then below it. -/
def Node.collect {α : Type} (f : Node → List α) (n : Node) : List α :=
  f n ++ match n with
    | .ident .. | .binding .. | .name .. | .privateName .. | .str .. | .number .. | .regex ..
    | .word .. | .importCallee .. | .hole | .metaProperty .. | .invalid .. | .shorthand ..
    | .emptyStmt .. | .debuggerStmt .. => []
    | .template _ _ es | .array _ es | .object _ es | .sequence _ es | .arrayPattern _ es
    | .objectPattern _ es | .block _ es | .varDecl _ _ es => Node.collectList f es
    | .spread _ e | .unary _ _ e | .update _ _ _ e | .paren _ e | .awaitExpr _ e | .computed _ e
    | .rest _ e | .staticBlock _ e | .exprStmt _ e | .throwStmt _ e | .exportDecl _ e
    | .exportDefaultDecl _ e | .exportDefaultExpr _ e | .importDefault _ e
    | .importNamespace _ e | .exportNamespace _ e | .exportAll _ e => Node.collect f e
    | .tagged _ a b | .binary _ _ a b | .assign _ _ a b | .member _ a b | .optionalMember _ _ a b
    | .shorthandDefault _ a b | .property _ a b | .getter _ a b | .method _ a b
    | .classMethod _ _ _ a b | .defaulted _ a b | .propertyPattern _ a b | .labeledStmt _ a b
    | .whileStmt _ a b => Node.collect f a ++ Node.collect f b
    | .doWhileStmt _ a b => Node.collect f b ++ Node.collect f a
    | .conditional _ a b c | .setter _ a b c | .forInStmt _ a b c | .forOfStmt _ _ a b c =>
      Node.collect f a ++ Node.collect f b ++ Node.collect f c
    | .call _ a es | .newExpr _ a _ es | .optionalCall _ _ a es | .switchStmt _ a es =>
      Node.collect f a ++ Node.collectList f es
    | .arrow _ _ es b | .function _ _ _ es b | .importDecl _ _ es b =>
      Node.collectList f es ++ Node.collect f b
    | .classConstructor _ a es b =>
      Node.collect f a ++ Node.collectList f es ++ Node.collect f b
    | .classExpr _ a b es =>
      Node.collectOption f a ++ Node.collectList f es ++ Node.collectOption f b
    | .classDecl _ a b es =>
      Node.collect f a ++ Node.collectList f es ++ Node.collectOption f b
    | .functionDecl _ a b => Node.collect f a ++ Node.collect f b
    | .functionExpr _ a b | .catchClause _ a b =>
      Node.collectOption f a ++ Node.collect f b
    | .field _ _ a b | .shorthandPattern _ a b | .declarator _ a b | .importNamed _ a b
    | .exportSpecifier _ a b => Node.collect f a ++ Node.collectOption f b
    | .yieldExpr _ _ a | .returnStmt _ a | .breakStmt _ a | .continueStmt _ a =>
      Node.collectOption f a
    | .switchCase _ a es => Node.collectOption f a ++ Node.collectList f es
    | .exportNamed _ es a => Node.collectList f es ++ Node.collectOption f a
    | .ifStmt _ a b c =>
      Node.collect f a ++ Node.collect f b ++ Node.collectOption f c
    | .tryStmt _ a b c =>
      Node.collect f a ++ Node.collectOption f b ++ Node.collectOption f c
    | .forStmt _ a b c d =>
      Node.collectOption f a ++ Node.collectOption f b ++ Node.collectOption f c
        ++ Node.collect f d

def Node.collectList {α : Type} (f : Node → List α) : List Node → List α
  | [] => []
  | n :: ns => Node.collect f n ++ Node.collectList f ns

def Node.collectOption {α : Type} (f : Node → List α) : Option Node → List α
  | none => []
  | some n => Node.collect f n

end

end Unbundled.Script
