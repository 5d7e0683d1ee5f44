import Loyalty.CommandLine
import Loyalty.Proofs.Text.Read
import Loyalty.Settings.Load

/-!
# Clean addresses

An address is *clean* if it neither begins nor ends with a blank, and does not end with a slash
(`Clean`). Settings are normalized by taking the blanks from both ends of every address, and then,
from that of the authority, the slashes at its end (`Sheds`).

What stands before those slashes may be a blank again, and it is left there. So the address of the
authority is not always clean, and it takes another normalization to get rid of this blank:
`normalized_unless_gapped` says that an address is clean after one normalization, and stays as it is
from then on, if and only if it had no blank before the slashes at its end (`Gapped`).
`blank_left` is an address that had one.
-/

namespace Loyalty

open Loyalty.Text

/-! ## Slashes at the end -/

namespace AuthoritySettings

variable {cs ds : List Char}

/-- The text is another one, which does not end with a slash, and some slashes. -/
structure Sheds (cs ds : List Char) : Prop where
  behind : ∃ slashes, cs = ds ++ slashes ∧ ∀ c ∈ slashes, c = '/'
  last : ∀ c ∈ ds.getLast?, c ≠ '/'

theorem withoutSlashes_eq_rdropWhile (cs : List Char) :
    withoutSlashes cs = cs.rdropWhile (· = '/') := rfl

theorem sheds_withoutSlashes (cs : List Char) : Sheds cs (withoutSlashes cs) where
  behind := by
    refine ⟨cs.rtakeWhile (· = '/'), ?_, fun c hc => by simpa using List.mem_rtakeWhile_imp hc⟩
    rw [withoutSlashes_eq_rdropWhile, List.rdropWhile_append_rtakeWhile]
  last := fun c hc => by simpa using last_rdropWhile _ cs c hc

theorem withoutSlashes_eq_iff : withoutSlashes cs = ds ↔ Sheds cs ds := by
  refine ⟨fun h => h ▸ sheds_withoutSlashes cs, ?_⟩
  rintro ⟨⟨slashes, rfl, hslashes⟩, hlast⟩
  rw [withoutSlashes_eq_rdropWhile, rdropWhile_append (by simpa using hslashes)]
  exact rdropWhile_of_last (by simpa using hlast)

end AuthoritySettings

open AuthoritySettings

/-! ## Clean texts -/

/-- The text neither begins nor ends with a blank, and does not end with a slash. -/
structure Clean (cs : List Char) : Prop where
  first : ∀ c ∈ cs.head?, isBlank c = false
  last : ∀ c ∈ cs.getLast?, isBlank c = false ∧ c ≠ '/'

/-- What is left without the blanks around the text has a blank before the slashes at its end. -/
def Gapped (cs : List Char) : Prop :=
  ∃ text blank slashes, Trims cs (text ++ blank :: slashes) ∧ isBlank blank ∧ slashes ≠ [] ∧
    ∀ c ∈ slashes, c = '/'

variable {cs ds : List Char}

theorem Clean.trims (h : Clean cs) : Trims cs cs := trims_self h.first fun c hc => (h.last c hc).1

theorem Clean.sheds (h : Clean cs) : Sheds cs cs :=
  ⟨⟨[], by simp, nofun⟩, fun c hc => (h.last c hc).2⟩

/-- The texts that cleaning leaves as they are. -/
theorem withoutSlashes_trimChars_eq_self_iff :
    withoutSlashes (trimChars cs) = cs ↔ Clean cs := by
  constructor
  · intro h
    -- All that is taken away at either end would be missing in the end.
    obtain ⟨front, back, hcs, -, -⟩ := (trims_trimChars cs).around
    obtain ⟨slashes, hslashes, -⟩ := (sheds_withoutSlashes (trimChars cs)).behind
    rw [h] at hslashes
    have hnone : slashes = [] := by
      have hlength := congrArg List.length hcs
      simp only [hslashes, List.length_append] at hlength
      exact List.length_eq_zero_iff.1 (by omega)
    rw [hnone, List.append_nil] at hslashes
    have htrims := trimChars_eq_iff.1 hslashes
    have hsheds := withoutSlashes_eq_iff.1 (hslashes ▸ h)
    exact ⟨htrims.first, fun c hc => ⟨htrims.last c hc, hsheds.last c hc⟩⟩
  · intro h
    rw [trimChars_eq_iff.2 h.trims, withoutSlashes_eq_iff.2 h.sheds]

theorem first_of_sheds (h : Trims cs ds) {text : List Char} (hsheds : Sheds ds text) :
    ∀ c ∈ text.head?, isBlank c = false := by
  obtain ⟨⟨slashes, rfl, -⟩, -⟩ := hsheds
  exact fun c hc => h.first c (List.mem_head?_append_of_mem_head? hc)

/-- Cleaning makes a text clean, unless it has a blank before the slashes at its end. -/
theorem clean_iff_not_gapped : Clean (withoutSlashes (trimChars cs)) ↔ ¬ Gapped cs := by
  have htrims := trims_trimChars cs
  have hsheds := sheds_withoutSlashes (trimChars cs)
  constructor
  · rintro hclean ⟨text, blank, slashes, htext, hblank, -, hslashes⟩
    have hkept : withoutSlashes (trimChars cs) = text ++ [blank] := by
      rw [trimChars_eq_iff.2 htext, withoutSlashes_eq_iff]
      refine ⟨⟨slashes, by simp, hslashes⟩, ?_⟩
      rw [List.getLast?_concat]
      rintro c ⟨⟩ rfl
      exact absurd hblank (by decide)
    have hnot := (hclean.last blank (by rw [hkept, List.getLast?_concat]; rfl)).1
    rw [hblank] at hnot
    cases hnot
  · intro hgapped
    refine ⟨first_of_sheds htrims hsheds, fun c hc => ⟨?_, hsheds.last c hc⟩⟩
    by_contra hblank
    rw [Bool.not_eq_false] at hblank
    obtain ⟨text, htext⟩ := List.getLast?_eq_some_iff.1 hc
    obtain ⟨slashes, hslashes, hall⟩ := hsheds.behind
    rw [htext, List.append_assoc, List.singleton_append] at hslashes
    refine hgapped ⟨text, c, slashes, hslashes ▸ htrims, hblank, ?_, hall⟩
    -- Without a slash behind it, the blank would have been at the end, and taken away.
    rintro rfl
    have hlast := htrims.last c (by rw [hslashes, List.getLast?_concat]; rfl)
    rw [hblank] at hlast
    cases hlast

/-! ## Clean settings -/

namespace Settings

variable {s t : Settings}

/-- What normalization makes of settings: blanks are taken away around every address, then the
    slashes at the end of that of the authority, and nothing else changes. -/
structure Normalizes (s t : Settings) : Prop where
  server : Trims s.server.address.toList t.server.address.toList
  authority : ∃ text, Trims s.authority.baseUrl.toList text ∧ Sheds text t.authority.baseUrl.toList
  database : Trims s.database.url.toList t.database.url.toList
  rest : t = { s with
    server := { s.server with address := t.server.address }
    authority := { s.authority with baseUrl := t.authority.baseUrl }
    database := { s.database with url := t.database.url } }

theorem toList_trim (text : String) : (trim text).toList = trimChars text.toList :=
  String.toList_ofList

theorem toList_cleanUrl (url : String) :
    (cleanUrl url).toList = withoutSlashes (trimChars url.toList) := String.toList_ofList

theorem normalizes_normalize (s : Settings) : s.Normalizes s.normalize where
  server := trimChars_eq_iff.1 (toList_trim _).symm
  authority := ⟨_, trims_trimChars _, withoutSlashes_eq_iff.1 (toList_cleanUrl _).symm⟩
  database := trimChars_eq_iff.1 (toList_trim _).symm
  rest := rfl

theorem trim_eq_self_iff {text : String} : trim text = text ↔ Trims text.toList text.toList := by
  rw [← String.toList_inj, toList_trim, trimChars_eq_iff]

theorem cleanUrl_eq_self_iff {url : String} : cleanUrl url = url ↔ Clean url.toList := by
  rw [← String.toList_inj, toList_cleanUrl, withoutSlashes_trimChars_eq_self_iff]

/-- Addresses without blanks around them are left alone, and so is that of the authority if it is
    clean. -/
theorem normalize_eq_self_iff : s.normalize = s ↔
    Trims s.server.address.toList s.server.address.toList ∧
      Clean s.authority.baseUrl.toList ∧ Trims s.database.url.toList s.database.url.toList := by
  rw [← trim_eq_self_iff, ← trim_eq_self_iff, ← cleanUrl_eq_self_iff]
  constructor
  · intro h
    exact ⟨congrArg (·.server.address) h, congrArg (·.authority.baseUrl) h,
      congrArg (·.database.url) h⟩
  · rintro ⟨hserver, hauthority, hdatabase⟩
    rw [normalize, hserver, hauthority, hdatabase]

/-- What is without blanks around it once stays so. -/
theorem normalize_normalize_iff :
    s.normalize.normalize = s.normalize ↔ Clean s.normalize.authority.baseUrl.toList := by
  have hs := s.normalizes_normalize
  rw [normalize_eq_self_iff]
  refine ⟨fun h => h.2.1, fun h => ⟨?_, h, ?_⟩⟩
  · exact trims_self hs.server.first hs.server.last
  · exact trims_self hs.database.first hs.database.last

theorem exists_of_load {files environment : List (String × String)}
    (h : load files environment = .ok t) : ∃ s : Settings, s.normalize = t := by
  rw [load] at h
  cases hfiles : (fileNames environment).foldlM (putFile files) standard.toDatum with
  | error fault =>
    rw [hfiles] at h
    cases h
  | ok d =>
    rw [hfiles] at h
    cases hdatum : ofDatum? (d.putLayer (ofVariables environment)) with
    | none => simp [bind, Except.bind, hdatum] at h
    | some s =>
      simp only [bind, Except.bind, hdatum, Except.ok.injEq] at h
      exact ⟨s, h⟩

end Settings

/-! ## Normalizing again -/

/-- Nothing is said about addresses. -/
def CommandLine.Silent (c : CommandLine) : Prop :=
  c.address = none ∧ c.authorityAddress = none ∧ c.databaseUri = none

/-- All the same, the command line normalizes the settings. -/
theorem CommandLine.Silent.apply {c : CommandLine} (h : c.Silent) (s : Settings) :
    c.apply s = s.normalize := by
  rw [CommandLine.apply, h.1, h.2.1, h.2.2]
  rfl

namespace Settings

/-- Once settings are normalized, the address of the authority neither begins with a blank nor ends
    with a slash. It is clean, and normalizing again changes nothing, if and only if it had no blank
    before the slashes at its end. Settings that were loaded are therefore left alone by a command
    line that says nothing about addresses if and only if the address that they have is clean. -/
theorem normalized_unless_gapped (s : Settings) :
    s.Normalizes s.normalize ∧
      (∀ c ∈ s.normalize.authority.baseUrl.toList.head?, isBlank c = false) ∧
      (Clean s.normalize.authority.baseUrl.toList ↔ ¬ Gapped s.authority.baseUrl.toList) ∧
      (s.normalize.normalize = s.normalize ↔ ¬ Gapped s.authority.baseUrl.toList) ∧
      ∀ files environment, load files environment = .ok s → ∀ c : CommandLine, c.Silent →
        (c.apply s = s ↔ Clean s.authority.baseUrl.toList) := by
  have hs := s.normalizes_normalize
  obtain ⟨text, htrims, hsheds⟩ := hs.authority
  have hclean : Clean s.normalize.authority.baseUrl.toList ↔
      ¬ Gapped s.authority.baseUrl.toList := by
    rw [← clean_iff_not_gapped, ← toList_cleanUrl]
    rfl
  refine ⟨hs, first_of_sheds htrims hsheds, hclean, normalize_normalize_iff.trans hclean,
    fun files environment hload c hc => ?_⟩
  obtain ⟨t, rfl⟩ := exists_of_load hload
  rw [hc.apply, normalize_normalize_iff]

/-- The address in a variable, with slashes at its end and a blank behind them, is loaded without
    them, and is left alone from then on. -/
theorem normalized_unless_gapped_loaded :
    let environment := [("LEDGER__ACCRUAL__BASE_URL", " http://accrual:8080// ")]
    let loaded : Settings := { authority := { baseUrl := "http://accrual:8080" } }
    let c : CommandLine := ⟨none, none, none, "config", true⟩
    load [] environment = .ok loaded ∧ c.Silent ∧ c.apply loaded = loaded := by
  intro environment loaded c
  have hload : load [] environment = .ok loaded := by decide +kernel
  have hclean : Clean loaded.authority.baseUrl.toList := cleanUrl_eq_self_iff.1 (by decide)
  have hc : c.Silent := ⟨rfl, rfl, rfl⟩
  obtain ⟨-, -, -, -, hloaded⟩ := normalized_unless_gapped loaded
  exact ⟨hload, hc, (hloaded [] environment hload c hc).2 hclean⟩

/-- With a blank before the slash at its end, an address is loaded with this blank, and a command
    line that says nothing changes it. -/
theorem blank_left :
    let environment := [("LEDGER__ACCRUAL__BASE_URL", "http://accrual:8080 /")]
    let s : Settings := { authority := { baseUrl := "http://accrual:8080 /" } }
    let c : CommandLine := ⟨none, none, none, "config", true⟩
    s.normalize.authority.baseUrl = "http://accrual:8080 " ∧
      s.normalize.normalize ≠ s.normalize ∧
      load [] environment = .ok s.normalize ∧ c.Silent ∧
      (c.apply s.normalize).authority.baseUrl = "http://accrual:8080" := by
  intro environment s c
  have hload : load [] environment = .ok s.normalize := by decide +kernel
  exact ⟨by decide, by decide, hload, ⟨rfl, rfl, rfl⟩, by decide⟩

end Settings
end Loyalty
