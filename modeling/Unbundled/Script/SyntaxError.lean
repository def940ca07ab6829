import Unbundled.Script.Node
import Unbundled.Text.Literal

/-!
Causes of syntax errors and their texts. Some stop the parser; the others are noted and only
count when parsing reaches the end of the script.
-/
namespace Unbundled.Script

inductive SyntaxError where
  -- characters and literals
  | unexpectedChar (c : Char)
  | unterminatedString
  | unterminatedRegex
  | unterminatedTemplate
  | unterminatedComment
  | legacyOctal
  | legacyDecimal
  | legacyComment
  | conflictMark
  | identifierAfterNumber
  | expectedDigit (radix : Nat)
  | misplacedSeparator
  | missingExponent
  | badEscape (expected : String)
  | badUnicodeEscape
  | badStringEscape
  | expectedUnicodeEscape
  | badIdentifierChar
  | escapedReservedWord (word : String)
  | unknownRegexFlags
  | repeatedRegexFlag (flag : Char)
  -- what the grammar expected
  | endOfInput
  | expressionExpected
  | tokenMissing
  | expected (token : String) (found : String)
  | unexpected (found : String) (expected : String)
  | identifierExpected
  | semicolonAfterExpression (span : Span)
  -- rules on what was parsed
  | importExportNested
  | returnOutside
  | breakOutside
  | continueOutside
  | unknownBreakLabel
  | unknownContinueLabel
  | repeatedLabel (label : String)
  | labeledFunction
  | withStatement
  | declarationNotAllowed
  | constWithoutValue
  | patternWithoutValue
  | trailingDeclaratorComma
  | severalLoopVariables
  | loopVariableValue
  | awaitedLoop
  | assignProperty
  | invalidAssignTarget
  | notSimpleTarget
  | notSimpleAssign
  | invalidPattern
  | restNotLast
  | restParameterNotLast
  | commaAfterRest
  | restWithDefault
  | restNotName
  | invalidExpression
  | emptyParens
  | spreadInParens
  | lineBreakBeforeArrow
  | arrowNotAllowed
  | mixedNullish
  /-- The left operand of a power, as an outline, with its place. -/
  | unaryBeforePower (outline : String) (span : Span)
  | lineBreakInThrow
  | severalDefaults (previous : Span)
  | deleteName
  | awaitOutside
  | awaitInParameters
  | awaitAsName
  | awaitStar
  | yieldInParameters
  | strictName (name : String)
  | evalOrArguments
  | argumentsInField
  | reservedExport (name : String)
  | importBindingString (name : String)
  | exportBindingString
  | superMisplaced
  | superCallMisplaced
  | superCallOptional
  | newTargetMisplaced
  | optionalNew
  | taggedOptional
  | importMisplaced
  | importTrailingComma
  | spaceAfterHash
  | privateConstructor
  | severalConstructors
  | generatorConstructor
  | asyncConstructor
  | accessorConstructor
  | staticConstructor
  | constructorField
  | severalParents
  | misplacedModifier
  | getterParameter
  | setterParameter
  | setterRest
  | asyncLoopHead
  | optionalShorthand
  | lateStrictMode
  | usingDisabled
  /-- An error in what the text at `span` calls for, with a note on that. -/
  | labelled (inner : Span × String) (span : Span) (note : String)
  /-- The nesting is deeper than the parser follows. -/
  | tooDeep
  deriving Repr

namespace SyntaxError

def text : SyntaxError → String
  | unexpectedChar c => "UnexpectedChar \x7b c: " ++ Text.charLiteral c ++ " \x7d"
  | unterminatedString => "UnterminatedStrLit"
  | unterminatedRegex => "UnterminatedRegExp"
  | unterminatedTemplate => "UnterminatedTpl"
  | unterminatedComment => "UnterminatedBlockComment"
  | legacyOctal => "LegacyOctal"
  | legacyDecimal => "LegacyDecimal"
  | legacyComment => "LegacyCommentInModule"
  | conflictMark => "TS1185"
  | identifierAfterNumber => "IdentAfterNum"
  | expectedDigit radix => "ExpectedDigit \x7b radix: " ++ toString radix ++ " \x7d"
  | misplacedSeparator => "NumericSeparatorIsAllowedOnlyBetweenTwoDigits"
  | missingExponent => "NumLitTerminatedWithExp"
  | badEscape wanted =>
    "BadCharacterEscapeSequence \x7b expected: " ++ Text.stringLiteral wanted ++ " \x7d"
  | badUnicodeEscape => "InvalidUnicodeEscape"
  | badStringEscape => "InvalidStrEscape"
  | expectedUnicodeEscape => "ExpectedUnicodeEscape"
  | badIdentifierChar => "InvalidIdentChar"
  | escapedReservedWord word =>
    "EscapeInReservedWord \x7b word: " ++ Text.stringLiteral word ++ " \x7d"
  | unknownRegexFlags => "UnknownRegExpFlags"
  | repeatedRegexFlag flag => "DuplicatedRegExpFlags(" ++ Text.charLiteral flag ++ ")"
  | endOfInput => "Eof"
  | expressionExpected => "TS1109"
  | tokenMissing => "TS1005"
  | expected token found => "Expected(" ++ token ++ ", " ++ Text.stringLiteral found ++ ")"
  | unexpected found wanted =>
    "Unexpected \x7b got: " ++ Text.stringLiteral found ++ ", expected: "
      ++ Text.stringLiteral wanted ++ " \x7d"
  | identifierExpected => "ExpectedIdent"
  | semicolonAfterExpression span => "ExpectedSemiForExprStmt \x7b expr: " ++ span.text ++ " \x7d"
  | importExportNested => "ImportExportInScript"
  | returnOutside => "ReturnNotAllowed"
  | breakOutside => "TS1105"
  | continueOutside => "TS1115"
  | unknownBreakLabel => "TS1116"
  | unknownContinueLabel => "TS1107"
  | repeatedLabel label => "DuplicateLabel(" ++ Text.stringLiteral label ++ ")"
  | labeledFunction => "LabelledFunctionInStrict"
  | withStatement => "WithInStrict"
  | declarationNotAllowed => "DeclNotAllowed"
  | constWithoutValue => "ConstDeclarationsRequireInitialization"
  | patternWithoutValue => "PatVarWithoutInit"
  | trailingDeclaratorComma => "TS1009"
  | severalLoopVariables => "TooManyVarInForInHead"
  | loopVariableValue => "VarInitializerInForInHead"
  | awaitedLoop => "AwaitForStmt"
  | assignProperty => "AssignProperty"
  | invalidAssignTarget => "InvalidAssignTarget"
  | notSimpleTarget => "TS2406"
  | notSimpleAssign => "NotSimpleAssign"
  | invalidPattern => "InvalidPat"
  | restNotLast => "NonLastRestParam"
  | restParameterNotLast => "TS1014"
  | commaAfterRest => "CommaAfterRestElement"
  | restWithDefault => "TS1048"
  | restNotName => "DotsWithoutIdentifier"
  | invalidExpression => "InvalidExpr"
  | emptyParens => "EmptyParenExpr"
  | spreadInParens => "SpreadInParenExpr"
  | lineBreakBeforeArrow => "LineBreakBeforeArrow"
  | arrowNotAllowed => "ArrowNotAllowed"
  | mixedNullish => "NullishCoalescingWithLogicalOp"
  | unaryBeforePower outline span =>
    "UnaryInExp \x7b left: " ++ Text.stringLiteral outline ++ ", left_span: " ++ span.text
      ++ " \x7d"
  | lineBreakInThrow => "LineBreakInThrow"
  | severalDefaults previous => "MultipleDefault \x7b previous: " ++ previous.text ++ " \x7d"
  | deleteName => "TS1102"
  | awaitOutside => "AwaitInFunction"
  | awaitInParameters => "AwaitParamInAsync"
  | awaitAsName => "InvalidIdentInAsync"
  | awaitStar => "AwaitStar"
  | yieldInParameters => "YieldParamInGen"
  | strictName name => "InvalidIdentInStrict(" ++ Text.stringLiteral name ++ ")"
  | evalOrArguments => "EvalAndArgumentsInStrict"
  | argumentsInField => "ArgumentsInClassField"
  | reservedExport name => "ExportExpectFrom(" ++ Text.stringLiteral name ++ ")"
  | importBindingString name => "ImportBindingIsString(" ++ Text.stringLiteral name ++ ")"
  | exportBindingString => "ExportBindingIsString"
  | superMisplaced => "InvalidSuper"
  | superCallMisplaced => "InvalidSuperCall"
  | superCallOptional => "SuperCallOptional"
  | newTargetMisplaced => "InvalidNewTarget"
  | optionalNew => "OptChainCannotFollowConstructorCall"
  | taggedOptional => "TaggedTplInOptChain"
  | importMisplaced => "InvalidImport"
  | importTrailingComma => "TrailingCommaInsideImport"
  | spaceAfterHash => "SpaceBetweenHashAndIdent"
  | privateConstructor => "PrivateConstructor"
  | severalConstructors => "DuplicateConstructor"
  | generatorConstructor => "GeneratorConstructor"
  | asyncConstructor => "AsyncConstructor"
  | accessorConstructor => "ConstructorAccessor"
  | staticConstructor => "TS1089(\"static\")"
  | constructorField => "PropertyNamedConstructor"
  | severalParents => "TS1172"
  | misplacedModifier => "TS1184"
  | getterParameter => "GetterParam"
  | setterParameter => "SetterParam"
  | setterRest => "RestPatInSetter"
  | asyncLoopHead => "TS1106"
  | optionalShorthand => "TS1162"
  | lateStrictMode => "IllegalLanguageModeDirective"
  | usingDisabled => "UsingDeclNotEnabled"
  | labelled (place, inner) span note =>
    "WithLabel \x7b inner: Error \x7b error: (" ++ place.text ++ ", " ++ inner ++ ") \x7d, span: "
      ++ span.text ++ ", note: " ++ Text.stringLiteral note ++ " \x7d"
  | tooDeep => "TooDeep"

end SyntaxError

/-- A syntax error and the stretch of text that it concerns. -/
structure Report where
  span : Span
  error : SyntaxError
  deriving Repr

end Unbundled.Script
