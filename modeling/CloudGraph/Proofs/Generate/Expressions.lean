import CloudGraph.Proofs.Generate.Expressions.Distinct
import CloudGraph.Proofs.Generate.Expressions.Literals
import CloudGraph.Proofs.Json.RoundTrip

/-!
# Expressions lose nothing

The expression of a value on a line of some indent tells the value, and no text in it opens a
template.

**Theorem (`expressions_exact`).** Two values with one expression are the same, as long as the
numbers in them are finite and no two are written alike. In the expression of any value each opening
of a template is escaped, and once the escapes are undone, what stands in quotes are the texts of
the value as they were.

* *Escapes* (`Expressions.Escapes`). What escaping does to a text, and how it is undone.
* *Texts* (`Expressions.Literals`). The texts that are read in an expression.
* *Values* (`Expressions.Distinct`). Why no two values share an expression.

Integers are written apart (`Number.toldByText_integers`), so nothing is assumed of values without
doubles.
-/

namespace CloudGraph

theorem Number.toldByText_integers :
    Number.ToldByText fun n => ∃ value fits, n = .int value fits where
  finite := by
    rintro _ ⟨value, fits, rfl⟩
    trivial
  injective := by
    rintro _ _ ⟨m, hm, rfl⟩ ⟨n, hn, rfl⟩ htext
    have hread (n : Int) (fits) : Json.ofText? (Number.int n fits).text =
        some (.num (.int n fits)) := by
      have hspells : Json.Spells (.value (.num (.int n fits))) (Number.int n fits).text.toList := by
        unfold Number.text
        rw [String.toList_ofList]
        exact .int n fits
      have hcanonical : (Json.num (.int n fits)).Canonical := trivial
      exact Json.ofText?_of_spells hcanonical (Nat.zero_le _) hspells
    have hsame := congrArg Json.ofText? htext
    rw [hread, hread] at hsame
    exact Json.num.inj (Option.some.inj hsame)

/-- **Expressions.** Among values whose numbers are told by their texts, different values have
different expressions. In the expression of any value no opening takes effect, and once the escapes
are undone its quoted texts are those of the value: its texts and the keys that are no attribute
names. -/
theorem expressions_exact (indent : Nat) :
    (∀ numbers : Number → Prop, Number.ToldByText numbers → ∀ v w : Json,
      v.AllNumbers numbers → w.AllNumbers numbers → Hcl.text indent v = Hcl.text indent w →
      v = w) ∧
    ∀ v : Json, ∃ plain, Hcl.undoOpenings (Hcl.text indent v).toList = some plain ∧
      Hcl.literals plain = some (Hcl.quotedTexts v) := by
  refine ⟨fun numbers hnumbers v w hv hw h => ?_, Hcl.exists_literals_text indent⟩
  have hchars : Hcl.chars indent v ++ [] = Hcl.chars indent w ++ [] := by
    rw [String.ofList_injective h]
  exact (Hcl.chars_append_inj hnumbers v hv hw (by simp [Hcl.EndsValue]) (by simp [Hcl.EndsValue])
    hchars).1

/-- A text that looks escaped, and the text that it would be the escape of. -/
theorem expressions_exact_lookalikes :
    ∃ (items v w : Json) (numbers : Number → Prop),
      items = .arr [.num (.int 1 (by decide)), .str "%%\x7b"] ∧
      v = .obj [("a", .str "$$\x7bx\x7d\n"), ("b c", items)] ∧
      w = .obj [("a", .str "$\x7bx\x7d\n"), ("b c", items)] ∧
      Number.ToldByText numbers ∧ v.AllNumbers numbers ∧ w.AllNumbers numbers ∧
      Hcl.text 2 v ≠ Hcl.text 2 w ∧
      ∃ plain, Hcl.undoOpenings (Hcl.text 2 v).toList = some plain ∧
        Hcl.literals plain = some ["$$\x7bx\x7d\n", "b c", "%%\x7b"] := by
  let items : Json := .arr [.num (.int 1 (by decide)), .str "%%\x7b"]
  let v : Json := .obj [("a", .str "$$\x7bx\x7d\n"), ("b c", items)]
  let w : Json := .obj [("a", .str "$\x7bx\x7d\n"), ("b c", items)]
  have hitems : items.AllNumbers fun n => ∃ value fits, n = .int value fits :=
    ⟨⟨1, _, rfl⟩, trivial, trivial⟩
  have hv : v.AllNumbers fun n => ∃ value fits, n = .int value fits :=
    ⟨trivial, hitems, trivial⟩
  have hw : w.AllNumbers fun n => ∃ value fits, n = .int value fits :=
    ⟨trivial, hitems, trivial⟩
  have hne : v ≠ w := by
    intro h
    simp [v, w] at h
  obtain ⟨htold, hread⟩ := expressions_exact 2
  obtain ⟨plain, hundo, hliterals⟩ := hread v
  refine ⟨items, v, w, _, rfl, rfl, rfl, Number.toldByText_integers, hv, hw, fun h => hne ?_,
    plain, hundo, ?_⟩
  · exact htold _ Number.toldByText_integers v w hv hw h
  · rw [hliterals]
    decide +kernel

end CloudGraph
