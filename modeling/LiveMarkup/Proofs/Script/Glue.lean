import LiveMarkup.Proofs.Script.Printed
import LiveMarkup.Script.Glue

/-!
# Glue scripts fit

Whatever the id of a component and whatever managers its pattern needs, its script can stand in a
script element and is minified without a change to its tokens (`fits_generate`). The id enters the
script in two places, as the rest of an identifier (`sanitized?_stem`) and in string literals.
-/

set_option autoImplicit false

namespace LiveMarkup.Script

theorem Identifier.sanitized?_stem (text : String) :
    Identifier.sanitized? "Strata_" text = some (Identifier.className text) :=
  dif_pos (Identifier.className text).valid

namespace Glue

theorem stmtsPlain_ite_singleton {p : Prop} [Decidable p] {stmt : Stmt}
    (h : stmt.isPlain = true) : stmtsPlain (if p then [stmt] else []) = true := by
  split
  · rw [stmtsPlain, h]
    rfl
  · rfl

theorem stmtsPlain_setupBody (component : Component) :
    stmtsPlain (setupBody component) = true := by
  -- Each manager and each connection is plain by itself, so any choice of them is.
  have hcount : numberLiteral (.finite .zero) = "0" := by decide +kernel
  have hnone : ∀ state, (enterNoResults state).isPlain = true := by
    intro state
    simp [enterNoResults, listen, Stmt.isPlain, stmtsPlain, Expr.isPlain, exprsPlain, Expr.method,
      Expr.isNumber, states, hcount]
  simp only [setupBody, stmtsPlain_append, Bool.and_eq_true]
  refine ⟨⟨⟨⟨⟨⟨?_, ?_⟩, ?_⟩, ?_⟩, ?_⟩, ?_⟩, ?_⟩
  · exact stmtsPlain_ite_singleton rfl
  · exact stmtsPlain_ite_singleton rfl
  · exact stmtsPlain_ite_singleton rfl
  · exact stmtsPlain_ite_singleton rfl
  · exact stmtsPlain_ite_singleton rfl
  · exact stmtsPlain_ite_singleton (hnone _)
  · exact stmtsPlain_ite_singleton rfl

theorem stmtsPlain_program (component : Component) : stmtsPlain (program component) = true := by
  have hsetup := stmtsPlain_setupBody component
  have hguard : (guard component.id).isPlain = true := rfl
  have hstarter : (starter component.id).isPlain = true := rfl
  have hschedule : schedule.isPlain = true := rfl
  simp only [program, stmtsPlain, Stmt.isPlain, methodsPlain, hsetup, hguard, hstarter, hschedule]
  rfl

/-- The script of every component fits. -/
theorem fits_generate (component : Component) : Fits (generate component).toList := by
  have h := fits_stmtsChars 0 (program component) (stmtsPlain_program component) fits_nil
  rwa [List.append_nil, ← String.toList_ofList (l := stmtsChars 0 _)] at h

/-- The script of every component has an identifier for its class, opens no tag, holds no line
separator that only scripts know, and is minified, once and for all, to the same tokens. -/
theorem generate_minifies (component : Component) :
    Identifier.sanitized? "Strata_" component.id = some (Identifier.className component.id) ∧
      (∀ c ∈ (generate component).toList, c ≠ '<' ∧ c ≠ '\u2028' ∧ c ≠ '\u2029') ∧
      ∃ tokens text again, tokenize (generate component).toList = .ok tokens ∧
        minify (generate component) = .ok text ∧ tokenize text.toList = .ok again ∧
        again.tokens.map Token.shape = tokens.tokens.map Token.shape ∧
        minify text = .ok text := by
  refine ⟨Identifier.sanitized?_stem component.id, ?_, (fits_generate component).minify⟩
  intro c hc
  have hinert := (fits_generate component).inert c hc
  simp only [isInert, Bool.and_eq_true, bne_iff_ne] at hinert
  exact ⟨hinert.1.1, hinert.1.2, hinert.2⟩

end Glue

end LiveMarkup.Script
