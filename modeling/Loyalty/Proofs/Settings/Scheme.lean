import Loyalty.Proofs.Settings.Addresses

/-!
# The authority on the command line

An address that is given on the command line names a scheme and what stands behind its mark, `://`;
without a mark, all of it stands behind that of `http` (`Names`). The scheme is put in front before
the slashes at the end are taken away, those of the mark included. So where nothing but slashes
stands behind the mark, two of its three characters are lost (`baseUrl_apply`).

The address that is left is usable (`Usable`) in all other cases, and in these only. It is never
empty, so that an address which is not usable is not reported as missing (`usable_unless_bare`).
`bare_accepted` shows settings without faults for a single slash.
-/

namespace Loyalty

open Loyalty.Text AuthoritySettings

/-! ## Schemes -/

namespace CommandLine

variable {cs scheme rest : List Char} {address : String} {c : CommandLine}

/-- The address has the form of a scheme, its mark and something behind it. -/
def Usable (url : List Char) : Prop := ∃ scheme rest, url = scheme ++ schemeMark ++ rest ∧ rest ≠ []

/-- The text has nothing but slashes. -/
def Bare (cs : List Char) : Prop := ∀ c ∈ cs, c = '/'

instance (cs : List Char) : Decidable (Bare cs) := List.decidableBAll (· = '/') cs

/-- The address names a scheme, up to its first mark, and the rest behind it. Without a mark, it is
    the rest behind that of `http`. -/
inductive Names : List Char → List Char → List Char → Prop
  | given {scheme rest : List Char} (first : ¬ schemeMark <:+: scheme) :
    Names (scheme ++ schemeMark ++ rest) scheme rest
  | assumed {cs : List Char} (none : ¬ schemeMark <:+: cs) : Names cs "http".toList cs

theorem exists_names (cs : List Char) : ∃ scheme rest, Names cs scheme rest := by
  by_cases h : schemeMark <:+: cs
  · obtain ⟨scheme, rest, rfl, hfirst⟩ := exists_first_part (List.cons_ne_nil _ _) h
    exact ⟨scheme, rest, .given hfirst⟩
  · exact ⟨_, _, .assumed h⟩

theorem Names.scheme_free (h : Names cs scheme rest) : ¬ schemeMark <:+: scheme := by
  cases h with
  | given first => exact first
  | assumed => decide

theorem toList_withScheme (h : Names (trimChars address.toList) scheme rest) :
    (withScheme address).toList = scheme ++ schemeMark ++ rest := by
  rw [withScheme, String.toList_ofList]
  generalize trimChars address.toList = cs at h ⊢
  cases h with
  | given => rw [if_pos (hasPart_iff.2 ⟨_, _, rfl⟩)]
  | assumed none =>
    rw [if_neg (mt hasPart_iff.1 none)]
    rfl

/-- What has a scheme has no blanks around it. -/
theorem trims_withScheme (h : Names (trimChars address.toList) scheme rest) :
    Trims (scheme ++ schemeMark ++ rest) (scheme ++ schemeMark ++ rest) := by
  have htrims := trims_trimChars address.toList
  generalize trimChars address.toList = cs at h htrims
  cases h with
  | given => exact trims_self htrims.first htrims.last
  | assumed none =>
    refine trims_self (by rintro c ⟨⟩; rfl) ?_
    by_cases hrest : rest = []
    · subst hrest
      rintro c ⟨⟩
      rfl
    · rw [List.getLast?_append_of_ne_nil _ hrest]
      exact htrims.last

/-! ## What is left of an address -/

/-- Slashes behind a mark are taken away with those of the mark. -/
theorem withoutSlashes_bare (hbare : Bare rest) :
    withoutSlashes (scheme ++ schemeMark ++ rest) = scheme ++ [':'] := by
  refine withoutSlashes_eq_iff.2 ⟨⟨'/' :: '/' :: rest, by simp [schemeMark], ?_⟩, ?_⟩
  · simpa [Bare] using hbare
  · rw [List.getLast?_concat]
    rintro c ⟨⟩
    decide

theorem withoutSlashes_ne_nil (h : ¬ Bare cs) : withoutSlashes cs ≠ [] := by
  intro hnil
  obtain ⟨slashes, hslashes, hall⟩ := (sheds_withoutSlashes cs).behind
  rw [hnil, List.nil_append] at hslashes
  exact h (hslashes ▸ hall)

/-- Slashes are taken away from the last part only, if it has anything else. -/
theorem withoutSlashes_append (h : ¬ Bare rest) (cs : List Char) :
    withoutSlashes (cs ++ rest) = cs ++ withoutSlashes rest := by
  obtain ⟨slashes, hslashes, hall⟩ := (sheds_withoutSlashes rest).behind
  refine withoutSlashes_eq_iff.2 ⟨⟨slashes, ?_, hall⟩, ?_⟩
  · rw [List.append_assoc, ← hslashes]
  · rw [List.getLast?_append_of_ne_nil _ (withoutSlashes_ne_nil h)]
    exact (sheds_withoutSlashes rest).last

theorem not_usable_bare (hscheme : ¬ schemeMark <:+: scheme) : ¬ Usable (scheme ++ [':']) := by
  rintro ⟨before, after, heq, hafter⟩
  -- Something behind a mark would leave the mark inside the scheme.
  obtain ⟨between, last, rfl⟩ := (List.eq_nil_or_concat after).resolve_left hafter
  rw [List.concat_eq_append, ← List.append_assoc] at heq
  exact hscheme ⟨before, between, (List.append_inj_left' heq rfl).symm⟩

/-- The address of the authority, once it is given on the command line. -/
theorem baseUrl_apply (hc : c.authorityAddress = some address)
    (h : Names (trimChars address.toList) scheme rest) (s : Settings) :
    (c.apply s).authority.baseUrl.toList =
      if Bare rest then scheme ++ [':'] else scheme ++ schemeMark ++ withoutSlashes rest := by
  have hurl : (c.apply s).authority.baseUrl = Settings.cleanUrl (withScheme address) := by
    rw [apply, hc]
    rfl
  rw [hurl, Settings.toList_cleanUrl, toList_withScheme h, trimChars_eq_iff.2 (trims_withScheme h)]
  split_ifs with hbare
  · exact withoutSlashes_bare hbare
  · exact withoutSlashes_append hbare _

end CommandLine

open CommandLine

/-! ## What is accepted -/

theorem Settings.noBaseUrl_mem_faults_iff {s : Settings} :
    .noBaseUrl ∈ s.faults ↔ s.authority.baseUrl.toList = [] := by
  simp [Settings.faults, Settings.checks]

/-- Settings to which the command line gives an address of the authority are never said to have
    none. The address is usable if and only if something other than slashes stands behind the mark
    of its scheme, and is then the scheme, the mark and the rest without slashes at its end;
    otherwise it is the scheme and a colon. -/
theorem usable_unless_bare {c : CommandLine} {address : String}
    (hc : c.authorityAddress = some address) (s : Settings) :
    let t := c.apply s
    .noBaseUrl ∉ t.faults ∧
    ∃ scheme rest, Names (trimChars address.toList) scheme rest ∧
      t.authority.baseUrl.toList =
        (if Bare rest then scheme ++ [':'] else scheme ++ schemeMark ++ withoutSlashes rest) ∧
      (Usable t.authority.baseUrl.toList ↔ ¬ Bare rest) := by
  intro t
  obtain ⟨scheme, rest, hnames⟩ := exists_names (trimChars address.toList)
  have hurl := baseUrl_apply hc hnames s
  refine ⟨?_, scheme, rest, hnames, hurl, ?_⟩
  · rw [Settings.noBaseUrl_mem_faults_iff, hurl]
    split_ifs <;> simp [schemeMark]
  · rw [hurl]
    split_ifs with hbare
    · exact iff_of_false (not_usable_bare hnames.scheme_free) (not_not_intro hbare)
    · exact iff_of_true ⟨scheme, _, rfl, withoutSlashes_ne_nil hbare⟩ hbare

/-- An address without a scheme, between blanks and with slashes at its end. -/
theorem usable_unless_bare_assumed :
    let c : CommandLine := ⟨none, some " accrual:8080// ", none, "config", true⟩
    let t := c.apply Settings.standard
    t.authority.baseUrl = "http://accrual:8080" ∧ .noBaseUrl ∉ t.faults ∧
      Usable t.authority.baseUrl.toList := by
  intro c t
  have hc : c.authorityAddress = some " accrual:8080// " := rfl
  obtain ⟨hfault, scheme, rest, -, hurl, hiff⟩ := usable_unless_bare hc Settings.standard
  have htext : t.authority.baseUrl = "http://accrual:8080" := by decide
  refine ⟨htext, hfault, hiff.2 fun hbare => ?_⟩
  -- The address would end with a colon.
  rw [if_pos hbare] at hurl
  have hlast := congrArg List.getLast? hurl
  rw [List.getLast?_concat, htext] at hlast
  cases hlast

/-- A slash is accepted as the address of the authority, and then comes to a scheme without
    anything behind it. -/
theorem bare_accepted :
    let c : CommandLine := ⟨none, some "/", none, "config", true⟩
    let t := c.apply { sessions := { secret := "k" } }
    CommandLine.read ["-r", "/", "--in-memory"] [] = .ok c ∧ t.faults = [] ∧
      t.authority.baseUrl = "http:" ∧ ¬ Usable t.authority.baseUrl.toList := by
  intro c t
  have htext : t.authority.baseUrl = "http:" := by decide
  refine ⟨by decide +kernel, by decide, htext, ?_⟩
  have hscheme : ¬ schemeMark <:+: "http".toList := by decide
  rw [htext]
  exact not_usable_bare hscheme

end Loyalty
