import Loyalty.Proofs.Text.Written
import Mathlib.Data.List.DropRight
import Mathlib.Data.Nat.Digits.Defs

/-!
# Which texts are read

A reader takes more than is written: a number may have a plus sign and zeros in front, and
hexadecimal digits may be capitals. Here is all that is taken, and as what.

* Pieces: `splitFirst_eq_some_iff`, for the first of the separators of a text,
  `exists_last_of_mem` for the last, `intercalate_splitAll` for all of them, and
  `exists_first_part` for a part of several characters.
* Blanks: `trimChars_eq_iff`, for what is left without those at both ends (`Trims`).
* Numbers: `int64?_eq_some_iff` and `natural?_eq_some_iff`, for the texts that are an integer
  (`Spells`) or a natural number (`Tells`).
* Bytes: `ofHex?_eq_some_iff`, for digits that may be of either case, and
  `Base64.decode?_eq_some_iff`, for those of base 64, which are read only as they are written.
-/

namespace Loyalty.Text

/-! ## Pieces -/

section Pieces

variable {α : Type} {sep : α} {cs before after : List α}

theorem exists_last_of_mem (h : sep ∈ cs) :
    ∃ before after, cs = before ++ sep :: after ∧ sep ∉ after := by
  -- The last one is the first one from behind.
  obtain ⟨after, before, hcs, hafter⟩ := List.eq_append_cons_of_mem (List.mem_reverse.2 h)
  refine ⟨before.reverse, after.reverse, ?_, by simpa using hafter⟩
  rw [List.reverse_eq_iff.1 hcs]
  simp

variable [DecidableEq α]

theorem splitFirst_of_not_mem (h : sep ∉ cs) : splitFirst sep cs = none := by
  induction cs with
  | nil => rfl
  | cons c cs ih =>
    rw [List.mem_cons, not_or] at h
    rw [splitFirst, if_neg (Ne.symm h.1), ih h.2, Option.map_none]

/-- The first separator is the one that has none before it. -/
theorem splitFirst_eq_some_iff :
    splitFirst sep cs = some (before, after) ↔ cs = before ++ sep :: after ∧ sep ∉ before := by
  constructor
  · intro h
    have hmem : sep ∈ cs := by
      by_contra hsep
      rw [splitFirst_of_not_mem hsep] at h
      cases h
    obtain ⟨start, rest, rfl, hstart⟩ := List.eq_append_cons_of_mem hmem
    rw [splitFirst_append hstart] at h
    cases h
    exact ⟨rfl, hstart⟩
  · rintro ⟨rfl, h⟩
    exact splitFirst_append h after

theorem append_cons_inj_of_first {before' after' : List α} (h : sep ∉ before) (h' : sep ∉ before')
    (heq : before ++ sep :: after = before' ++ sep :: after') :
    before = before' ∧ after = after' := by
  have hsplit := splitFirst_append h after
  rw [heq, splitFirst_append h' after', Option.some.injEq, Prod.mk.injEq] at hsplit
  exact ⟨hsplit.1.symm, hsplit.2.symm⟩

/-- The pieces of a text make it up, with the separator between them. -/
theorem intercalate_splitAll (sep : α) (cs : List α) :
    [sep].intercalate (splitAll sep cs) = cs := by
  induction cs with
  | nil => exact List.intercalate_singleton
  | cons c cs ih =>
    rw [splitAll]
    split
    next hnil =>
      rw [← ih, hnil]
      rfl
    next piece rest hpieces =>
      rw [hpieces] at ih
      split_ifs with hc
      · rw [List.intercalate_cons_cons, ih, hc]
        rfl
      · rw [← ih]
        cases rest <;> simp

/-! ### Parts -/

theorem dropStart?_isSome_iff {start : List α} : (dropStart? start cs).isSome ↔ start <+: cs := by
  induction start generalizing cs with
  | nil => simp [dropStart?]
  | cons s start ih =>
    cases cs with
    | nil => simp [dropStart?]
    | cons c cs =>
      rw [dropStart?, List.cons_prefix_cons, ← ih]
      split_ifs with h <;> simp [h]

theorem hasPart_iff {part : List α} : hasPart part cs = true ↔ part <:+: cs := by
  induction cs with
  | nil => rw [hasPart, dropStart?_isSome_iff, List.prefix_nil, List.infix_nil]
  | cons c cs ih => rw [hasPart, Bool.or_eq_true, dropStart?_isSome_iff, ih, List.infix_cons_iff]

/-- A part of a text has a first place in it. -/
theorem exists_first_part {part : List α} (hpart : part ≠ []) (h : part <:+: cs) :
    ∃ before after, cs = before ++ part ++ after ∧ ¬ part <:+: before := by
  induction cs with
  | nil => exact absurd (List.infix_nil.1 h) hpart
  | cons c cs ih =>
    by_cases hstart : part <+: c :: cs
    · obtain ⟨after, hafter⟩ := hstart
      exact ⟨[], after, hafter.symm, fun hnil => hpart (List.infix_nil.1 hnil)⟩
    · obtain ⟨before, after, rfl, hbefore⟩ := ih ((List.infix_cons_iff.1 h).resolve_left hstart)
      refine ⟨c :: before, after, rfl, fun hinfix => ?_⟩
      rcases List.infix_cons_iff.1 hinfix with hbegins | hinfix
      · refine hstart (hbegins.trans ?_)
        rw [List.append_assoc, ← List.cons_append]
        exact List.prefix_append _ _
      · exact hbefore hinfix

end Pieces

/-! ## Ends -/

section Ends

variable {α : Type} {p : α → Bool} {cs ds : List α}

/-- Where all of the end of a text is dropped, what stands before it is left as if it were alone. -/
theorem rdropWhile_append (h : ∀ c ∈ ds, p c = true) (cs : List α) :
    (cs ++ ds).rdropWhile p = cs.rdropWhile p := by
  rw [List.rdropWhile, List.reverse_append, List.dropWhile_append_of_pos (by simpa using h),
    List.rdropWhile]

theorem rdropWhile_of_last (h : ∀ c ∈ cs.getLast?, p c = false) : cs.rdropWhile p = cs := by
  rw [List.rdropWhile_eq_self_iff]
  intro hcs
  simpa using h _ (List.getLast?_eq_getLast_of_ne_nil hcs)

theorem last_rdropWhile (p : α → Bool) (cs : List α) :
    ∀ c ∈ (cs.rdropWhile p).getLast?, p c = false := by
  intro c hc
  have hnot := List.head?_dropWhile_not p cs.reverse
  rw [List.rdropWhile, List.getLast?_reverse] at hc
  rwa [hc] at hnot

end Ends

/-! ## Blanks -/

section Blanks

variable {cs ds : List Char}

/-- The text is some blanks, another text that neither begins nor ends with one, and some blanks. -/
structure Trims (cs ds : List Char) : Prop where
  around : ∃ front back, cs = front ++ ds ++ back ∧ (∀ c ∈ front, isBlank c) ∧ ∀ c ∈ back, isBlank c
  first : ∀ c ∈ ds.head?, isBlank c = false
  last : ∀ c ∈ ds.getLast?, isBlank c = false

/-- What ASCII shows as a mark on paper is no blank. -/
theorem isBlank_of_graphic {c : Char} (hlow : 33 ≤ c.toNat) (hhigh : c.toNat < 127) :
    isBlank c = false := by
  have hcodes : ∀ n < 127, 33 ≤ n → blankCodes.contains n = false := by decide
  exact hcodes c.toNat hhigh hlow

theorem trimEnd_eq (cs : List Char) : trimEnd cs = cs.rdropWhile isBlank := rfl

theorem head?_trimStart (cs : List Char) : ∀ c ∈ (trimStart cs).head?, isBlank c = false := by
  intro c hc
  have hnot := List.head?_dropWhile_not isBlank cs
  rw [trimStart] at hc
  rwa [hc] at hnot

theorem trimStart_of_first (h : ∀ c ∈ cs.head?, isBlank c = false) : trimStart cs = cs := by
  cases cs with
  | nil => rfl
  | cons c cs => exact List.dropWhile_cons_of_neg (by simpa using h c rfl)

theorem trimStart_append (h : ∀ c ∈ cs, isBlank c) (ds : List Char) :
    trimStart (cs ++ ds) = trimStart ds := List.dropWhile_append_of_pos h

theorem trimEnd_append (h : ∀ c ∈ ds, isBlank c) (cs : List Char) :
    trimEnd (cs ++ ds) = trimEnd cs := rdropWhile_append h cs

theorem trimChars_of_trims (h : Trims cs ds) : trimChars cs = ds := by
  obtain ⟨⟨front, back, rfl, hfront, hback⟩, hfirst, hlast⟩ := h
  have hend : trimEnd ds = ds := rdropWhile_of_last hlast
  rw [trimChars, List.append_assoc, trimStart_append hfront]
  cases ds with
  | nil =>
    have hnil : trimStart back = [] := List.dropWhile_eq_nil_iff.2 hback
    rw [List.nil_append, hnil]
    rfl
  | cons d ds =>
    have hstart : trimStart (d :: ds ++ back) = d :: ds ++ back := trimStart_of_first hfirst
    rw [hstart, trimEnd_append hback, hend]

theorem trims_trimChars (cs : List Char) : Trims cs (trimChars cs) where
  around := by
    refine ⟨cs.takeWhile isBlank, (trimStart cs).rtakeWhile isBlank, ?_,
      fun c hc => List.mem_takeWhile_imp hc, fun c hc => List.mem_rtakeWhile_imp hc⟩
    rw [List.append_assoc, trimChars, trimEnd_eq, List.rdropWhile_append_rtakeWhile, trimStart,
      List.takeWhile_append_dropWhile]
  first := by
    intro c hc
    obtain ⟨rest, hrest⟩ := List.rdropWhile_prefix isBlank (l := trimStart cs)
    refine head?_trimStart cs c ?_
    rw [← hrest]
    exact List.mem_head?_append_of_mem_head? hc
  last := last_rdropWhile isBlank (trimStart cs)

/-- What is left of a text is what stands between the blanks at both its ends. -/
theorem trimChars_eq_iff : trimChars cs = ds ↔ Trims cs ds :=
  ⟨fun h => h ▸ trims_trimChars cs, trimChars_of_trims⟩

/-- A text without blanks at its ends is left as it stands. -/
theorem trims_self (hfirst : ∀ c ∈ cs.head?, isBlank c = false)
    (hlast : ∀ c ∈ cs.getLast?, isBlank c = false) : Trims cs cs :=
  ⟨⟨[], [], by simp, nofun, nofun⟩, hfirst, hlast⟩

end Blanks

/-! ## Numbers -/

/-- The text is one or more digits, and the number the one that they stand for. -/
structure Counts (cs : List Char) (n : Nat) : Prop where
  nonempty : cs ≠ []
  digits : ∀ c ∈ cs, '0' ≤ c ∧ c ≤ '9'
  value : n = Nat.ofDigits 10 (cs.reverse.map fun c => c.toNat - 48)

/-- The text is the integer in digits, perhaps behind a sign. -/
inductive Spells : List Char → Int → Prop
  | digits {cs : List Char} {n : Nat} (h : Counts cs n) : Spells cs n
  | plus {cs : List Char} {n : Nat} (h : Counts cs n) : Spells ('+' :: cs) n
  | minus {cs : List Char} {n : Nat} (h : Counts cs n) : Spells ('-' :: cs) (-n)

/-- The text is the natural number in digits, perhaps behind a plus sign. -/
inductive Tells : List Char → Nat → Prop
  | digits {cs : List Char} {n : Nat} (h : Counts cs n) : Tells cs n
  | plus {cs : List Char} {n : Nat} (h : Counts cs n) : Tells ('+' :: cs) n

variable {cs : List Char} {n : Int} {c : Char}

theorem digitsValueFrom_eq_some_iff {acc n : Nat} :
    digitsValueFrom acc cs = some n ↔
      (∀ c ∈ cs, '0' ≤ c ∧ c ≤ '9') ∧ n = cs.foldl (fun v c => (c.toNat - 48) + 10 * v) acc := by
  induction cs generalizing acc with
  | nil => simp [digitsValueFrom, eq_comm]
  | cons c cs ih =>
    rw [digitsValueFrom, digitValue?, List.forall_mem_cons, List.foldl_cons]
    split_ifs with hc
    · rw [Option.bind_some, ih, Nat.add_comm]
      simp [hc]
    · simp [hc]

theorem digitsValue?_eq_some_iff {n : Nat} : digitsValue? cs = some n ↔ Counts cs n := by
  -- The digits are read from the left, while `Nat.ofDigits` begins with the lowest one.
  have hvalue : Nat.ofDigits 10 (cs.reverse.map fun c => c.toNat - 48) =
      cs.foldl (fun v c => (c.toNat - 48) + 10 * v) 0 := by
    rw [Nat.ofDigits_eq_foldr, List.foldr_map, List.foldr_reverse]
    simp
  rw [digitsValue?]
  split_ifs with hempty
  · rw [List.isEmpty_iff] at hempty
    exact iff_of_false (by simp) fun h => h.nonempty hempty
  · rw [digitsValueFrom_eq_some_iff, ← hvalue]
    rw [List.isEmpty_iff] at hempty
    exact ⟨fun h => ⟨hempty, h.1, h.2⟩, fun h => ⟨h.digits, h.value⟩⟩

/-- Digits begin with no sign. -/
theorem Counts.isDigit {n : Nat} (h : Counts (c :: cs) n) : '0' ≤ c ∧ c ≤ '9' :=
  h.digits c List.mem_cons_self

/-- A natural number is read from the texts that are it, up to the bound. -/
theorem natural?_eq_some_iff {top n : Nat} : natural? top cs = some n ↔ Tells cs n ∧ n ≤ top := by
  simp only [natural?, Option.filter_eq_some_iff, decide_eq_true_eq]
  refine and_congr_left' ?_
  split
  next rest =>
    rw [digitsValue?_eq_some_iff]
    refine ⟨.plus, fun h => ?_⟩
    cases h with
    | digits h => exact absurd h.isDigit (by decide)
    | plus h => exact h
  next hplus =>
    rw [digitsValue?_eq_some_iff]
    refine ⟨.digits, fun h => ?_⟩
    cases h with
    | digits h => exact h
    | plus h => exact absurd rfl (hplus _)

theorem spells_minus_iff : Spells ('-' :: cs) n ↔ ∃ m, Counts cs m ∧ -(m : Int) = n := by
  constructor
  · rintro (h | h | h)
    · exact absurd h.isDigit (by decide)
    · exact ⟨_, h, rfl⟩
  · rintro ⟨m, h, rfl⟩
    exact .minus h

theorem spells_plus_iff : Spells ('+' :: cs) n ↔ ∃ m, Counts cs m ∧ (m : Int) = n := by
  constructor
  · rintro (h | h | h)
    · exact absurd h.isDigit (by decide)
    · exact ⟨_, h, rfl⟩
  · rintro ⟨m, h, rfl⟩
    exact .plus h

theorem spells_iff_of_unsigned (hminus : ∀ rest, cs ≠ '-' :: rest)
    (hplus : ∀ rest, cs ≠ '+' :: rest) : Spells cs n ↔ ∃ m, Counts cs m ∧ (m : Int) = n := by
  constructor
  · rintro (h | h | h)
    · exact ⟨_, h, rfl⟩
    · exact absurd rfl (hplus _)
    · exact absurd rfl (hminus _)
  · rintro ⟨m, h, rfl⟩
    exact .digits h

theorem Tells.code_of_mem {n : Nat} (h : Tells cs n) (hc : c ∈ cs) :
    43 ≤ c.toNat ∧ c.toNat ≤ 57 := by
  have hdigit {ds : List Char} (h : Counts ds n) (hc : c ∈ ds) : 43 ≤ c.toNat ∧ c.toNat ≤ 57 := by
    obtain ⟨hlow, hhigh⟩ := h.digits c hc
    have hzero : 48 ≤ c.toNat := hlow
    have hnine : c.toNat ≤ 57 := hhigh
    omega
  cases h with
  | digits h => exact hdigit h hc
  | plus h =>
    rcases List.mem_cons.1 hc with rfl | hc
    · decide
    · exact hdigit h hc

theorem Spells.not_mem_point (h : Spells cs n) : '.' ∉ cs := by
  have hdigits {ds : List Char} {m : Nat} (h : Counts ds m) : '.' ∉ ds := fun hmem =>
    absurd (h.digits '.' hmem) (by decide)
  cases h with
  | digits h => exact hdigits h
  | plus h | minus h =>
    rw [List.mem_cons, not_or]
    exact ⟨by decide, hdigits h⟩

theorem integer?_eq_some_iff {low high : Int} :
    integer? low high cs = some n ↔ Spells cs n ∧ low ≤ n ∧ n ≤ high := by
  have hmap (f : Int → Int) (ds : List Char) :
      ((do let m ← digitsValue? ds; pure (m : Int)) : Option Int).map f = some n ↔
        ∃ m : Nat, Counts ds m ∧ f m = n := by
    simp [Option.bind_eq_some_iff, digitsValue?_eq_some_iff]
  simp only [integer?, Option.filter_eq_some_iff, decide_eq_true_eq]
  refine and_congr_left' ?_
  split
  next => rw [hmap, spells_minus_iff]
  next => rw [hmap, spells_plus_iff]
  next hminus hplus => rw [hmap, spells_iff_of_unsigned hminus hplus]

/-- An integer is read from the texts that are it. -/
theorem int64?_eq_some_iff : int64? cs = some n ↔ Spells cs n ∧ int64Min ≤ n ∧ n ≤ int64Max :=
  integer?_eq_some_iff

/-! ## Bytes -/

theorem le_iff_toNat_le {a b : Char} : a ≤ b ↔ a.toNat ≤ b.toNat :=
  Char.le_def.trans UInt32.le_iff_toNat_le

theorem toNat_toLower (c : Char) :
    c.toLower.toNat = if 65 ≤ c.toNat ∧ c.toNat ≤ 90 then c.toNat + 32 else c.toNat := by
  have hcapital : (c.val ≥ 'A'.val ∧ c.val ≤ 'Z'.val) ↔ 65 ≤ c.toNat ∧ c.toNat ≤ 90 :=
    and_congr UInt32.le_iff_toNat_le UInt32.le_iff_toNat_le
  change (dite (c.val ≥ 'A'.val ∧ c.val ≤ 'Z'.val) _ _ : Char).toNat = _
  by_cases h : c.val ≥ 'A'.val ∧ c.val ≤ 'Z'.val
  · rw [dif_pos h, if_pos (hcapital.1 h)]
    have hc : c.toNat + 32 < 2 ^ 32 := by
      have := (hcapital.1 h).2
      omega
    exact (UInt32.toNat_add c.val 32).trans (Nat.mod_eq_of_lt hc)
  · rw [dif_neg h, if_neg (mt hcapital.2 h)]

theorem toNat_hexDigit {n : Nat} (h : n < 16) :
    (hexDigit n).toNat = if n < 10 then 48 + n else 87 + n := by
  decide +revert

theorem length_toHex (bs : List UInt8) : (toHex bs).length = 2 * bs.length := by
  rw [toHex, List.length_flatMap]
  simp [Nat.mul_comm]

theorem hexValue?_lt {n : Nat} (h : hexValue? c = some n) : n < 16 := by
  simp only [hexValue?, le_iff_toNat_le, Char.reduceToNat] at h
  split_ifs at h <;> simp only [Option.some.injEq] at h <;> omega

/-- A digit in either case is read as the number that it is written for. -/
theorem hexValue?_eq_some_iff {n : Nat} (h : n < 16) :
    hexValue? c = some n ↔ c.toLower = hexDigit n := by
  rw [← Char.toNat_inj, toNat_toLower, toNat_hexDigit h, hexValue?]
  simp only [le_iff_toNat_le, Char.reduceToNat]
  split_ifs <;> simp <;> omega

theorem ofNat_halves {h l : Nat} (hh : h < 16) (hl : l < 16) {b : UInt8} :
    UInt8.ofNat (16 * h + l) = b ↔ h = b.toNat / 16 ∧ l = b.toNat % 16 := by
  have hb := b.toNat_lt
  rw [← UInt8.toNat_inj, UInt8.toNat_ofNat_of_lt' (by simp only [UInt8.size]; omega)]
  omega

/-- The digits of some bytes, in either case, are those that are read as these bytes. -/
theorem ofHex?_eq_some_iff {bs : List UInt8} :
    ofHex? cs = some bs ↔ cs.map Char.toLower = toHex bs := by
  induction cs using ofHex?.induct generalizing bs with
  | case1 => cases bs <;> simp [ofHex?, toHex]
  | case2 c => cases bs <;> simp [ofHex?, toHex]
  | case3 high low rest ih =>
    rw [ofHex?]
    simp only [Option.bind_eq_bind, Option.bind_eq_some_iff, Option.pure_def, Option.some.injEq]
    cases bs with
    | nil => simp [toHex]
    | cons b bs =>
      have hb := byte_halves b
      rw [toHex, List.flatMap_cons, ← toHex]
      simp only [List.map_cons, List.cons_append, List.nil_append, List.cons.injEq,
        ← hexValue?_eq_some_iff hb.1, ← hexValue?_eq_some_iff hb.2, ← ih]
      constructor
      · rintro ⟨h, hh, l, hl, bytes, hrest, hbyte, rfl⟩
        obtain ⟨rfl, rfl⟩ := (ofNat_halves (hexValue?_lt hh) (hexValue?_lt hl)).1 hbyte
        exact ⟨hh, hl, hrest⟩
      · rintro ⟨hh, hl, hrest⟩
        exact ⟨_, hh, _, hl, bs, hrest, (ofNat_halves hb.1 hb.2).2 ⟨rfl, rfl⟩, rfl⟩

/-! ## Bytes in base 64 -/

namespace Base64

variable {cs : List Char} {bs : List UInt8} {c : Char} {n i j k l : Nat}

theorem toNat_digit (h : n < 64) :
    (digit n).toNat = if n < 26 then 65 + n else if n < 52 then 71 + n
      else if n < 62 then n - 4 else if n = 62 then 43 else 47 := by
  decide +revert

/-- A digit is read as the number that it is written for. -/
theorem value?_eq_some_iff : value? c = some n ↔ n < 64 ∧ digit n = c := by
  refine ⟨fun h => ?_, fun ⟨hn, hc⟩ => hc ▸ value?_digit hn⟩
  simp only [value?, le_iff_toNat_le, ← Char.toNat_inj, Char.reduceToNat] at h
  have hn : n < 64 := by
    split_ifs at h <;> simp only [Option.some.injEq] at h <;> omega
  refine ⟨hn, ?_⟩
  rw [← Char.toNat_inj, toNat_digit hn]
  split_ifs at h ⊢ <;> simp only [Option.some.injEq] at h <;> omega

/-- Six bits and the highest two of the six behind them are a byte. -/
theorem toNat_high (hi : i < 64) (hj : j < 64) :
    (UInt8.ofNat (4 * i + j / 16)).toNat = 4 * i + j / 16 :=
  UInt8.toNat_ofNat_of_lt' (by simp only [UInt8.size]; omega)

/-- The lowest four bits of six and the highest four of the six behind them are a byte. -/
theorem toNat_middle (j : Nat) (hk : k < 64) :
    (UInt8.ofNat (j % 16 * 16 + k / 4)).toNat = j % 16 * 16 + k / 4 :=
  UInt8.toNat_ofNat_of_lt' (by simp only [UInt8.size]; omega)

/-- The lowest two bits of six and the six behind them are a byte. -/
theorem toNat_low (k : Nat) (hl : l < 64) :
    (UInt8.ofNat (k % 4 * 64 + l)).toNat = k % 4 * 64 + l :=
  UInt8.toNat_ofNat_of_lt' (by simp only [UInt8.size]; omega)

theorem encode_of_decode? (h : decode? cs = some bs) : encode bs = cs := by
  induction cs using decode?.induct generalizing bs with
  | case1 =>
    cases h
    rfl
  | case2 c => cases h
  | case3 p q =>
    simp only [decode?, Option.bind_eq_bind, Option.bind_eq_some_iff, Option.ite_none_right_eq_some,
      Option.some.injEq, value?_eq_some_iff] at h
    obtain ⟨i, ⟨hi, rfl⟩, j, ⟨hj, rfl⟩, hunused, rfl⟩ := h
    rw [encode, toNat_high hi hj, show (4 * i + j / 16) / 4 = i by omega,
      show (4 * i + j / 16) % 4 * 16 = j by omega]
  | case4 p q r =>
    simp only [decode?, Option.bind_eq_bind, Option.bind_eq_some_iff, Option.ite_none_right_eq_some,
      Option.some.injEq, value?_eq_some_iff] at h
    obtain ⟨i, ⟨hi, rfl⟩, j, ⟨hj, rfl⟩, k, ⟨hk, rfl⟩, hunused, rfl⟩ := h
    rw [encode, toNat_high hi hj, toNat_middle j hk, show (4 * i + j / 16) / 4 = i by omega,
      show (4 * i + j / 16) % 4 * 16 + (j % 16 * 16 + k / 4) / 16 = j by omega,
      show (j % 16 * 16 + k / 4) % 16 * 4 = k by omega]
  | case5 p q r s rest ih =>
    simp only [decode?, Option.bind_eq_bind, Option.bind_eq_some_iff, Option.pure_def,
      Option.some.injEq, value?_eq_some_iff] at h
    obtain ⟨i, ⟨hi, rfl⟩, j, ⟨hj, rfl⟩, k, ⟨hk, rfl⟩, l, ⟨hl, rfl⟩, bytes, hrest, rfl⟩ := h
    rw [encode, ih hrest, toNat_high hi hj, toNat_middle j hk, toNat_low k hl,
      show (4 * i + j / 16) / 4 = i by omega,
      show (4 * i + j / 16) % 4 * 16 + (j % 16 * 16 + k / 4) / 16 = j by omega,
      show (j % 16 * 16 + k / 4) % 16 * 4 + (k % 4 * 64 + l) / 64 = k by omega,
      show (k % 4 * 64 + l) % 64 = l by omega]

/-- Only what is written for some bytes is read as these bytes. -/
theorem decode?_eq_some_iff : decode? cs = some bs ↔ cs = encode bs :=
  ⟨fun h => (encode_of_decode? h).symm, fun h => h ▸ decode?_encode bs⟩

end Base64
end Loyalty.Text
