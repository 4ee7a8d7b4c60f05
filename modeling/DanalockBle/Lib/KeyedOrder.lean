import Mathlib.Order.Lattice

/-!
# Comparison by a key that may be missing

Values of which some have a key in an order. One value is above another when both have keys and
its key is the greater one; two values are alike when they have the same key. A value without a
key compares with nothing.
-/

namespace KeyedOrder

variable {α κ : Type} (key : α → Option κ)

/-- Both have keys, and the first one's is greater. -/
def Above [LT κ] (a b : α) : Prop := ∃ x y, key a = some x ∧ key b = some y ∧ y < x

/-- Both have the same key. -/
def Alike (a b : α) : Prop := ∃ x, key a = some x ∧ key b = some x

variable {key} {a b c : α}

theorem Alike.symm (h : Alike key a b) : Alike key b a := by
  obtain ⟨x, ha, hb⟩ := h
  exact ⟨x, hb, ha⟩

theorem Alike.trans (hab : Alike key a b) (hbc : Alike key b c) : Alike key a c := by
  obtain ⟨x, ha, hb⟩ := hab
  obtain ⟨y, hb', hc⟩ := hbc
  cases hb.symm.trans hb'
  exact ⟨x, ha, hc⟩

theorem alike_self_iff : Alike key a a ↔ (key a).isSome = true := by
  rw [Option.isSome_iff_exists]
  constructor
  · rintro ⟨x, ha, -⟩
    exact ⟨x, ha⟩
  · rintro ⟨x, ha⟩
    exact ⟨x, ha, ha⟩

theorem Alike.isSome (h : Alike key a b) : (key a).isSome = true ∧ (key b).isSome = true := by
  obtain ⟨x, ha, hb⟩ := h
  rw [ha, hb]
  exact ⟨rfl, rfl⟩

section
variable [LT κ]

theorem Above.isSome (h : Above key a b) : (key a).isSome = true ∧ (key b).isSome = true := by
  obtain ⟨x, y, ha, hb, -⟩ := h
  rw [ha, hb]
  exact ⟨rfl, rfl⟩

/-- A value may be replaced by one that is alike. -/
theorem Above.congr {a' b' : α} (h : Above key a b) (ha : Alike key a a') (hb : Alike key b b') :
    Above key a' b' := by
  obtain ⟨x, y, hx, hy, hlt⟩ := h
  obtain ⟨x', hx', ha'⟩ := ha
  obtain ⟨y', hy', hb'⟩ := hb
  cases hx.symm.trans hx'
  cases hy.symm.trans hy'
  exact ⟨x, y, ha', hb', hlt⟩

theorem above_congr {a' b' : α} (ha : Alike key a a') (hb : Alike key b b') :
    Above key a b ↔ Above key a' b' :=
  ⟨fun h => h.congr ha hb, fun h => h.congr ha.symm hb.symm⟩

end

section
variable [Preorder κ]

theorem Above.trans (hab : Above key a b) (hbc : Above key b c) : Above key a c := by
  obtain ⟨x, y, ha, hb, hlt⟩ := hab
  obtain ⟨y', z, hb', hc, hlt'⟩ := hbc
  cases hb.symm.trans hb'
  exact ⟨x, z, ha, hc, hlt'.trans hlt⟩

theorem Above.not_alike (h : Above key a b) : ¬ Alike key a b := by
  obtain ⟨x, y, ha, hb, hlt⟩ := h
  rintro ⟨z, ha', hb'⟩
  cases ha.symm.trans ha'
  cases hb.symm.trans hb'
  exact lt_irrefl x hlt

theorem not_above_self : ¬ Above key a a :=
  fun h => h.not_alike (alike_self_iff.mpr h.isSome.1)

theorem Above.asymm (h : Above key a b) : ¬ Above key b a :=
  fun h' => not_above_self (h.trans h')

end

/-- Two values with keys are alike, or one is above the other. -/
theorem above_or_alike [LinearOrder κ] (ha : (key a).isSome = true) (hb : (key b).isSome = true) :
    Above key a b ∨ Above key b a ∨ Alike key a b := by
  obtain ⟨x, hx⟩ := Option.isSome_iff_exists.mp ha
  obtain ⟨y, hy⟩ := Option.isSome_iff_exists.mp hb
  rcases lt_trichotomy x y with hlt | rfl | hlt
  · exact .inr (.inl ⟨y, x, hy, hx, hlt⟩)
  · exact .inr (.inr ⟨x, hx, hy⟩)
  · exact .inl ⟨x, y, hx, hy, hlt⟩

end KeyedOrder
