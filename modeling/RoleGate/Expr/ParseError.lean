import RoleGate.Expr.Token

/-! Why a text is not a role expression. -/

set_option autoImplicit false

namespace RoleGate

/-- Groups, negations and links of chains that may be open at one time. -/
def maxDepth : Nat := 256

inductive ParseError where
  | unexpectedEnd
  | unexpectedChar (c : Char)
  | unexpectedToken (token : Token)
  | unclosedParen
  | unclosedString
  | emptyExpression
  /-- A role that is to be asked for on a model, with no model after it. -/
  | missingModel (role : String)
  /-- More than `maxDepth` levels open. -/
  | tooDeep
  deriving DecidableEq, Repr

def ParseError.message : ParseError → String
  | .unexpectedEnd => "unexpected end of expression"
  | .unexpectedChar c => "unexpected character: '" ++ String.singleton c ++ "'"
  | .unexpectedToken token => "unexpected token: '" ++ token.text ++ "'"
  | .unclosedParen => "unclosed parenthesis"
  | .unclosedString => "unclosed string literal"
  | .emptyExpression => "empty expression"
  | .missingModel role => "missing model for role '" ++ role ++ "'"
  | .tooDeep => "expression nested deeper than " ++ toString maxDepth ++ " levels"

end RoleGate
