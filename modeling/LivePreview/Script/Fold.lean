import LivePreview.Script.Node

/-!
# Folding over a script's tree

`Node.fold` gives each node the results of its children in the order of the source. Passes that
only collect something from a tree are folds.
-/

namespace LivePreview.Script

mutual

/-- The result of a node from the results of its children, in the order of the source. -/
def Node.fold {β : Type} (f : Node → List β → β) : Node → β
  | .mk span form => f (.mk span form) (Form.foldChildren f form)

/-- The results of the children of a form. -/
def Form.foldChildren {β : Type} (f : Node → List β → β) : Form → List β
  | .whileLoop a b | .tagged a b | .property a b _ _ | .binary _ a b | .assign _ a b
  | .instantiated a b | .index a b _ | .withDefault a b | .withObject a b | .doLoop a b =>
    [a.fold f, b.fold f]
  | .forLoop a b c d => foldOption f a ++ foldOption f b ++ foldOption f c ++ [d.fold f]
  | .forInLoop a b c | .forOfLoop _ a b c | .conditional a b c => [a.fold f, b.fold f, c.fold f]
  | .template _ ns | .array ns | .object ns | .sequence ns | .importCall _ ns | .staticBlock ns
  | .block ns | .functionBody ns | .variables _ ns | .enumeration _ _ ns | .namespaceBlock _ _ ns
  | .ambientBlock _ (some ns) | .exportNames _ ns _ | .type _ ns | .typeList ns
  | .typeMembers _ ns | .parameterList ns | .typeMember ns | .typeAlias _ ns | .interface _ ns =>
    foldList f ns
  | .function _ _ _ ns body => foldList f ns ++ foldOption f body
  | .arrow _ _ ns body => foldList f ns ++ [body.fold f]
  | .classForm _ decorators _ superclass members =>
    foldList f decorators ++ foldOption f superclass ++ foldList f members
  | .unary _ a | .update _ _ a | .member a _ _ | .privateMember a _ _ | .chain a
  | .parenthesized a | .awaitFor a | .spread a | .typed a | .rest a | .expression a
  | .throwValue a | .exportDeclaration a | .exportDefault a | .importEquals _ _ _ a
  | .exportEquals a | .labelled _ a | .exportSpecifier a _ _ | .declared a => [a.fold f]
  | .call a ns _ _ | .newCall a ns _ | .switchOn a ns => a.fold f :: foldList f ns
  | .yieldTo _ a | .returnWith a | .enumMember _ a => foldOption f a
  | .arrayPattern _ ns rest | .objectPattern _ ns rest => foldList f ns ++ foldOption f rest
  | .parameter decorators _ pattern => foldList f decorators ++ [pattern.fold f]
  | .method decorators _ _ _ key function =>
    foldList f decorators ++ [key.fold f, function.fold f]
  | .field decorators _ _ key value =>
    foldList f decorators ++ (key.fold f :: foldOption f value)
  | .variable pattern value => pattern.fold f :: foldOption f value
  | .ifElse a b c => a.fold f :: b.fold f :: foldOption f c
  | .tryBlock a b c => a.fold f :: (foldOption f b ++ foldOption f c)
  | .catchClause a b => foldOption f a ++ [b.fold f]
  | .switchCase a ns => foldOption f a ++ foldList f ns
  | .text _ | .typeName _ | .ambientBlock _ none | .name _ | .constant _ | .number _ | .bigint _
  | .string _ | .regularExpression _ | .hole | .metaProperty .. | .privateName _ | .directive _
  | .empty | .breakTo _ | .continueTo _ | .debugger | .importSpecifier .. | .importDeclaration ..
  | .exportAll .. | .exportGlobal _ => []

/-- The results of nodes one behind the other. -/
def foldList {β : Type} (f : Node → List β → β) : List Node → List β
  | [] => []
  | n :: ns => n.fold f :: foldList f ns

/-- The result of a node that may be missing. -/
def foldOption {β : Type} (f : Node → List β → β) : Option Node → List β
  | none => []
  | some n => [n.fold f]

end

end LivePreview.Script
