import RoleGate.Expr.Parser

/-! Expressions together with the text they were read from. -/

set_option autoImplicit false

namespace RoleGate

structure ParsedExpr where
  source : String
  expr : Expr
  deriving DecidableEq, Repr

def ParsedExpr.parse (source : String) : Except ParseError ParsedExpr :=
  (Expr.parse source).map (⟨source, ·⟩)

theorem ParsedExpr.parse_eq_ok_iff {source : String} {parsed : ParsedExpr} :
    ParsedExpr.parse source = .ok parsed ↔
      parsed.source = source ∧ Expr.parse source = .ok parsed.expr := by
  obtain ⟨kept, expr⟩ := parsed
  unfold ParsedExpr.parse
  cases Expr.parse source with
  | error => simp [Except.map]
  | ok found =>
    simp only [Except.map, Except.ok.injEq, ParsedExpr.mk.injEq]
    exact and_congr_left' ⟨Eq.symm, Eq.symm⟩

end RoleGate
