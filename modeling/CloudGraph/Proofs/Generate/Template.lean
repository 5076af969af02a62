import CloudGraph.Generate.Artifact
import CloudGraph.Proofs.SortedMap
import Mathlib.Data.List.Basic

/-!
# Filling in a template

What a list of parts becomes, part by part. A value is the text that the data has under its name, a
block over an array the texts of its items one after another, and a conditional block its body or
nothing.
-/

namespace CloudGraph.Template

variable {context v : Json} {name s : String} {parts body : List TemplatePart} {t u : List Char}

attribute [local simp] renderPart renderParts

/-- The parts become a text. -/
def Renders (context : Json) (parts : List TemplatePart) (text : List Char) : Prop :=
  renderParts context parts = some text

theorem Renders.congr (h : Renders context parts t) (ht : t = u) : Renders context parts u :=
  ht ▸ h

theorem renders_nil : Renders context [] [] := by
  simp [Renders]

theorem Renders.cons {part : TemplatePart} (hpart : renderPart context part = some t)
    (hrest : Renders context parts u) : Renders context (part :: parts) (t ++ u) := by
  unfold Renders at hrest ⊢
  rw [renderParts, hpart, hrest]
  rfl

theorem Renders.literal (h : Renders context parts t) :
    Renders context (.literal s :: parts) (s.toList ++ t) :=
  h.cons (by simp)

theorem valueChars_str (s : String) : valueChars (.str s) = s.toList := rfl

theorem find_object {members : List (String × Json)} (h : lookup name members.reverse = some v) :
    find (.object members) name = .found v := by
  rw [← Json.member?_object] at h
  have hlookup : lookup name (insertAll members []) = some v := h
  show find (.obj (insertAll members [])) name = _
  simp only [find, hlookup]

theorem Renders.value (hfind : find context name = .found (.str s)) (h : Renders context parts t) :
    Renders context (.value name :: parts) (s.toList ++ t) := by
  refine h.cons ?_
  rw [renderPart, hfind]
  exact congrArg some (valueChars_str s)

theorem Renders.item (h : Renders (.str s) parts t) :
    Renders (.str s) (.item :: parts) (s.toList ++ t) :=
  h.cons (by simp [valueChars_str])

theorem Renders.quoted (hfind : find context name = .found (.str s)) (h : Renders context parts t) :
    Renders context (.quoted name :: parts) (Json.quoteChars s.toList ++ t) := by
  refine h.cons ?_
  rw [renderPart, hfind]
  rfl

theorem Renders.joined {separator : String} {texts : List String}
    (hfind : find context name = .found (.strings texts)) (h : Renders context parts t) :
    Renders context (.joined name separator :: parts)
      (separator.toList.intercalate (texts.map String.toList) ++ t) := by
  refine h.cons ?_
  rw [renderPart, hfind]
  show some (separator.toList.intercalate ((texts.map Json.str).map joinedChars)) = _
  rw [List.map_map]
  rfl

/-- A block over an array whose items are made from a list. -/
theorem Renders.each {α : Type} {items : List α} {data : α → Json} {text : α → List Char}
    (hfind : find context name = .found (.arr (items.map data)))
    (hbody : ∀ a ∈ items, Renders (data a) body (text a)) (h : Renders context parts t) :
    Renders context (.each name body :: parts) ((items.map text).flatten ++ t) := by
  have htexts : (items.map data).mapM (fun item => renderParts item body) =
      some (items.map text) := by
    clear hfind
    induction items with
    | nil => rfl
    | cons a items ih =>
      obtain ⟨ha, hitems⟩ := List.forall_mem_cons.1 hbody
      rw [List.map_cons, List.mapM_cons, show renderParts (data a) body = some (text a) from ha,
        ih hitems]
      rfl
  refine h.cons ?_
  rw [renderPart, hfind]
  show (do
    let texts ← (items.map data).mapM fun item => renderParts item body
    return texts.flatten) = _
  rw [htexts]
  rfl

theorem Renders.given {ownLines : Bool} (hfind : find context name = .found v)
    (hv : isGiven v = true) (hbody : Renders context body u) (h : Renders context parts t) :
    Renders context (.given name ownLines body :: parts) (u ++ t) := by
  refine h.cons ?_
  rw [renderPart, hfind]
  simp only [hv, if_true]
  exact hbody

theorem Renders.notGiven {ownLines : Bool} (hfind : find context name = .found v)
    (hv : isGiven v = false) (h : Renders context parts t) :
    Renders context (.given name ownLines body :: parts) t := by
  refine h.cons (t := []) ?_
  simp [hfind, hv]

/-- A block on the condition that an array has items. -/
theorem Renders.givenItems {α : Type} {items : List α} {data : α → Json} {ownLines : Bool}
    (hfind : find context name = .found (.arr (items.map data)))
    (hbody : Renders context body u) (h : Renders context parts t) :
    Renders context (.given name ownLines body :: parts)
      ((if items.isEmpty then [] else u) ++ t) := by
  cases items with
  | nil => exact Renders.notGiven hfind rfl h
  | cons a items => exact Renders.given hfind rfl hbody h

theorem fill_of_renders {t : Template} {data : Json} {text : List Char}
    (h : Renders data t.parts text) : t.fill data = .ok (.ofList text) := by
  unfold fill render
  rw [show renderParts data t.parts = some text from h]
  rfl

end CloudGraph.Template
