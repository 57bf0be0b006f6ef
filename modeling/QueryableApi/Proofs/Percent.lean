import QueryableApi.Percent
import QueryableApi.Proofs.Text.Utf8

/-! # What percent encoding writes

An encoded text consists of unreserved characters, percent signs and hexadecimal digits, which are
unreserved too. So no other character stands in it, whatever was encoded (`not_mem_encodeChars`). A dot
is kept, and no other character has a byte in front that an escape would spell as one.

Unreserved characters and escapes spell bytes (`Spells`), each text at most one sequence of them
(`decode?_eq_some_iff`). An encoded text spells the bytes of what was encoded (`spells_encodeChars`), so
different texts are encoded differently (`encodeChars_injective`). -/

namespace QueryableApi.Percent

/-- A hexadecimal digit is unreserved. -/
theorem isUnreserved_hexChar {n : Nat} (h : n < 16) : isUnreserved (Text.hexChar n) = true := by
  have all : ∀ m ∈ List.range 16, isUnreserved (Text.hexChar m) = true := by decide
  exact all n (List.mem_range.mpr h)

/-- An escape is a percent sign and unreserved characters. -/
theorem eq_percent_or_isUnreserved_of_mem_escape {b : UInt8} {c : Char} (h : c ∈ escape b) :
    c = '%' ∨ isUnreserved c = true := by
  have hb : b.toNat < 256 := b.toNat_lt
  rw [escape, List.mem_cons, List.mem_cons, List.mem_singleton] at h
  rcases h with rfl | rfl | rfl
  · exact Or.inl rfl
  · exact Or.inr (isUnreserved_hexChar (by omega))
  · exact Or.inr (isUnreserved_hexChar (by omega))

/-- **An encoded text** consists of percent signs and unreserved characters. -/
theorem eq_percent_or_isUnreserved_of_mem {cs : List Char} {c : Char} (h : c ∈ encodeChars cs) :
    c = '%' ∨ isUnreserved c = true := by
  obtain ⟨original, -, h⟩ := List.mem_flatMap.mp h
  rw [encodeChar] at h
  split at h
  · next hkept =>
    rw [List.mem_singleton.mp h]
    exact Or.inr hkept
  · obtain ⟨b, -, h⟩ := List.mem_flatMap.mp h
    exact eq_percent_or_isUnreserved_of_mem_escape h

/-- A character that is reserved does not stand in an encoded text, except the percent sign. -/
theorem not_mem_encodeChars {c : Char} (hpercent : c ≠ '%') (hreserved : isUnreserved c = false)
    (cs : List Char) : c ∉ encodeChars cs := by
  intro h
  rcases eq_percent_or_isUnreserved_of_mem h with h | h
  · exact hpercent h
  · rw [hreserved] at h
    cases h

/-! ## Dots -/

/-- The first byte of a character is that of a dot only for the dot. -/
theorem exists_utf8OfChar_eq_cons {c : Char} (hc : c ≠ '.') :
    ∃ b rest, Text.utf8OfChar c = b :: rest ∧ b.toNat ≠ 0x2E := by
  have hne : c.toNat ≠ 0x2E := fun h => hc (Char.toNat_inj.mp h)
  have hbound := Text.toNat_lt_bound c
  -- the first byte of a character of several bytes is large
  have hfirst : ∀ n, n < 256 → n ≠ 0x2E → (UInt8.ofNat n).toNat ≠ 0x2E := fun n hn hdot => by
    rwa [UInt8.toNat_ofNat', Nat.mod_eq_of_lt hn]
  unfold Text.utf8OfChar
  dsimp only
  split
  · exact ⟨_, _, rfl, hfirst _ (by omega) hne⟩
  · split
    · exact ⟨_, _, rfl, hfirst _ (by omega) (by omega)⟩
    · split
      · exact ⟨_, _, rfl, hfirst _ (by omega) (by omega)⟩
      · exact ⟨_, _, rfl, hfirst _ (by omega) (by omega)⟩

/-- The digits of a dot are those of its byte only. -/
theorem eq_of_hexChar {n : Nat} (h : n < 16) :
    (Text.hexChar n = '2' → n = 2) ∧ (Text.hexChar n = 'e' ∨ Text.hexChar n = 'E' → n = 14) := by
  have all : ∀ m ∈ List.range 16,
      (Text.hexChar m = '2' → m = 2) ∧ (Text.hexChar m = 'e' ∨ Text.hexChar m = 'E' → m = 14) := by
    decide
  exact all n (List.mem_range.mpr h)

/-! ## Reading back -/

/-- **What a text spells**: an unreserved character spells its own byte, and an escape the byte of its
two hexadecimal digits. -/
inductive Spells : List Char → List UInt8 → Prop
  /-- The empty text spells no bytes. -/
  | nil : Spells [] []
  /-- An unreserved character spells its byte. -/
  | unreserved {c : Char} {cs : List Char} {bytes : List UInt8} (unreserved : isUnreserved c = true)
      (rest : Spells cs bytes) : Spells (c :: cs) (UInt8.ofNat c.toNat :: bytes)
  /-- An escape spells the byte of its digits. -/
  | escape {x y : Char} {high low : Nat} {cs : List Char} {bytes : List UInt8}
      (highDigit : Text.hexValue? x = some high) (lowDigit : Text.hexValue? y = some low)
      (rest : Spells cs bytes) :
      Spells ('%' :: x :: y :: cs) (UInt8.ofNat (high * 16 + low) :: bytes)

section Spelling

variable {c : Char} {text : List Char} {bytes others : List UInt8}

/-- An unreserved character is decoded to its byte. -/
theorem decode?_cons (hc : isUnreserved c = true) (rest : List Char) :
    decode? (c :: rest) = (decode? rest).map (UInt8.ofNat c.toNat :: ·) := by
  have hpercent : c ≠ '%' := by
    rintro rfl
    cases hc
  rw [decode?, if_pos hc]
  exact fun _ _ _ h _ => hpercent h

/-- **A text is decoded to what it spells.** -/
theorem decode?_eq_some_iff : decode? text = some bytes ↔ Spells text bytes := by
  constructor
  · intro h
    fun_induction decode? text generalizing bytes with
    | case1 =>
        obtain rfl := Option.some.inj h
        exact .nil
    | case2 x y rest high low _ hrest hy hx ih =>
        obtain rfl := Option.some.inj h
        exact .escape hx hy (ih hrest)
    | case3 => cases h
    | case4 c rest _ hc ih =>
        obtain ⟨tail, hrest, rfl⟩ := Option.map_eq_some_iff.mp h
        exact .unreserved hc (ih hrest)
    | case5 => cases h
  · intro h
    induction h with
    | nil => rfl
    | unreserved hc _ ih => rw [decode?_cons hc, ih, Option.map_some]
    | escape hx hy _ ih => rw [decode?, hx, hy, ih]

/-- A text spells only one sequence of bytes. -/
theorem Spells.unique (h : Spells text bytes) (h' : Spells text others) : bytes = others :=
  Option.some.inj ((decode?_eq_some_iff.mpr h).symm.trans (decode?_eq_some_iff.mpr h'))

/-- The escape that is written for a byte spells it. -/
theorem Spells.escape_append (h : Spells text bytes) (b : UInt8) :
    Spells (Percent.escape b ++ text) (b :: bytes) := by
  have hb : b.toNat < 256 := b.toNat_lt
  have hdigits : b.toNat / 16 * 16 + b.toNat % 16 = b.toNat := Nat.div_add_mod' b.toNat 16
  have hspells := Spells.escape (Text.hexValue?_hexChar (n := b.toNat / 16) (by omega))
    (Text.hexValue?_hexChar (n := b.toNat % 16) (by omega)) h
  rwa [hdigits, UInt8.ofNat_toNat] at hspells

/-- Escapes spell their bytes. -/
theorem Spells.escapes_append (h : Spells text bytes) (more : List UInt8) :
    Spells (more.flatMap Percent.escape ++ text) (more ++ bytes) := by
  induction more with
  | nil => exact h
  | cons b more ih =>
      rw [List.flatMap_cons, List.append_assoc, List.cons_append]
      exact ih.escape_append b

/-- An unreserved character is a single byte. -/
theorem toNat_lt_of_isUnreserved (hc : isUnreserved c = true) : c.toNat < 0x80 := by
  simp only [isUnreserved, Bool.or_eq_true, beq_iff_eq] at hc
  rcases hc with (((hc | rfl) | rfl) | rfl) | rfl
  · exact Text.toNat_lt_of_isAlphanum hc
  all_goals decide

/-- **An encoded text spells the bytes** of what was encoded. -/
theorem spells_encodeChars (cs : List Char) :
    Spells (encodeChars cs) (cs.flatMap Text.utf8OfChar) := by
  induction cs with
  | nil => exact .nil
  | cons c rest ih =>
      rw [encodeChars, List.flatMap_cons, List.flatMap_cons, encodeChar]
      split
      · next hkept =>
        rw [Text.utf8OfChar_of_lt (toNat_lt_of_isUnreserved hkept)]
        exact .unreserved hkept ih
      · exact ih.escapes_append _

/-- **Different texts are encoded differently.** -/
theorem encodeChars_injective {s t : String} (h : encodeChars s.toList = encodeChars t.toList) :
    s = t := by
  have hs := spells_encodeChars s.toList
  rw [h] at hs
  exact Text.utf8_injective (hs.unique (spells_encodeChars t.toList))

end Spelling

end QueryableApi.Percent
