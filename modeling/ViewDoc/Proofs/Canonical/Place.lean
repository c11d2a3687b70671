import ViewDoc.Canonical.Build
/-!
Document paths as the spelling of positions. The main statement is that different positions have
different paths, because a bracket ends every number.
-/

set_option autoImplicit false

namespace ViewDoc

namespace Text

theorem toList_ofNat (n : Nat) : (ofNat n).toList = Nat.toDigits 10 n := by
  simp [ofNat]

theorem ofNat_injective {m n : Nat} (same : ofNat m = ofNat n) : m = n := by
  have digits : Nat.toDigits 10 m = Nat.toDigits 10 n := by
    rw [← toList_ofNat, ← toList_ofNat, same]
  rw [← Nat.ofDigitChars_ten_toDigits (n := m), digits, Nat.ofDigitChars_ten_toDigits]

theorem isDigit_of_mem_ofNat {n : Nat} {c : Char} (mem : c ∈ (ofNat n).toList) :
    c.isDigit = true := by
  rw [toList_ofNat] at mem
  exact Nat.isDigit_of_mem_toDigits (by decide) (by decide) mem

/-- A number that is ended by what is no digit can be read off a text. -/
theorem ofNat_append_inj {m n : Nat} {c : Char} {before after : List Char}
    (mark : c.isDigit = false)
    (same : (ofNat m).toList ++ c :: before = (ofNat n).toList ++ c :: after) :
    m = n ∧ before = after := by
  have digits (k : Nat) (rest : List Char) :
      ((ofNat k).toList ++ c :: rest).takeWhile Char.isDigit = (ofNat k).toList := by
    rw [List.takeWhile_append_of_pos fun d => isDigit_of_mem_ofNat,
      List.takeWhile_cons_of_neg (by simp [mark]), List.append_nil]
  have number : m = n := by
    refine ofNat_injective (String.toList_injective ?_)
    rw [← digits m before, same, digits]
  subst number
  exact ⟨rfl, (List.cons.inj (List.append_cancel_left same)).2⟩

/-- Numbers can be read off a text in which each of them stands after the same front and before a mark
that is no digit. -/
theorem join_framed_injective (front : String) {mark : Char} (stop : mark.isDigit = false)
    {ns ms : List Nat}
    (same : String.join (ns.map fun i => front ++ ofNat i ++ String.singleton mark) =
      String.join (ms.map fun i => front ++ ofNat i ++ String.singleton mark)) : ns = ms := by
  induction ns generalizing ms with
  | nil =>
    cases ms with
    | nil => rfl
    | cons j ms =>
      have short := congrArg String.toList same
      simp at short
  | cons i ns ih =>
    cases ms with
    | nil =>
      have short := congrArg String.toList same
      simp at short
    | cons j ms =>
      have spelled := congrArg String.toList same
      simp only [List.map_cons, String.join_cons, String.toList_append, String.toList_singleton,
        List.append_assoc, List.append_cancel_left_eq, List.singleton_append] at spelled
      obtain ⟨rfl, rest⟩ := ofNat_append_inj stop spelled
      rw [ih (String.toList_injective rest)]

end Text

namespace Canonical

/-- The step from a node to a child. -/
def childStep (i : Nat) : String :=
  ".children[" ++ Text.ofNat i ++ "]"

/-- The path of the node at a position. -/
def pathAt (place : List Nat) : String :=
  "ui.root" ++ String.join (place.map childStep)

theorem pathAt_nil : pathAt [] = rootPath := by
  simp [pathAt, rootPath]

theorem pathAt_snoc (place : List Nat) (i : Nat) :
    pathAt (place ++ [i]) = childPath (pathAt place) i := by
  simp [pathAt, childPath, childStep, String.join_append, String.append_assoc]

theorem join_childStep_injective {places others : List Nat}
    (same : String.join (places.map childStep) = String.join (others.map childStep)) :
    places = others := by
  have step : childStep = fun i => ".children[" ++ Text.ofNat i ++ String.singleton ']' := rfl
  rw [step] at same
  exact Text.join_framed_injective ".children[" rfl same

theorem pathAt_injective {place other : List Nat} (same : pathAt place = pathAt other) :
    place = other := by
  have spelled := congrArg String.toList same
  rw [pathAt, pathAt, String.toList_append, String.toList_append] at spelled
  exact join_childStep_injective (String.toList_injective (List.append_cancel_left spelled))

end Canonical

end ViewDoc
