import Loyalty.Proofs.Authority.Waiting
import Loyalty.Proofs.Http.Headers

/-!
# No pause is longer than the longest one

A response of 429 asks for the seconds that its header names, if the header is a whole number,
and for the default pause otherwise. Whichever it asks for, a caller pauses for the longest pause
at most, and later responses can only put the deadline off to the end of another such pause. So at
no time is there more left of a pause than the longest one.

* `secondsOf?_eq_some_iff`: what the header must be to name seconds, as bytes;
* `Asks`, `asks_asked`: what a response asks for, and that it asks for exactly one pause;
* `Cooldown.Within`: there is no deadline after some time. The end of each pause is within the
  longest pause from now (`Cooldown.pauseEnd_le`), and the callers keep to this together
  (`Serves.within`);
* `capped`: all of this for every response and every state that the callers come to.
-/

namespace Loyalty

open Loyalty.Text

namespace Cooldown

variable {c : Cooldown} {now time n : Nat} {pause left : Span}

/-- There is no deadline after that time. -/
def Within (c : Cooldown) (time : Nat) : Prop := ∀ d, c.deadline = some d → d ≤ time

theorem Within.mono {later : Nat} (h : c.Within time) (hlater : time ≤ later) : c.Within later :=
  fun d hd => (h d hd).trans hlater

theorem Within.trip (h : c.Within time) (hend : pauseEnd now pause ≤ time) :
    (c.trip now pause).Within time := by
  have hset : (⟨some (pauseEnd now pause)⟩ : Cooldown).Within time := by
    rintro d ⟨⟩
    exact hend
  unfold Cooldown.trip
  split
  · split_ifs
    · exact h
    · exact hset
  · exact hset

theorem Within.clear (h : c.Within time) (now : Nat) : (c.clear now).Within time := by
  unfold Cooldown.clear
  split
  · split_ifs
    · exact nofun
    · exact h
  · exact h

theorem Within.remaining_le (h : c.Within (now + n)) (hleft : c.remaining? now = some left) :
    left.nanoseconds ≤ n := by
  unfold remaining? at hleft
  split at hleft
  next d hd =>
    split_ifs at hleft
    cases hleft
    have hle := h d hd
    dsimp only
    omega
  · cases hleft

/-- A pause ends no later than it was asked for: the year that is made of one that the clock
    cannot show ends earlier, if the clock can show that. -/
theorem pauseEnd_le (hshown : pauseEnd now pause < clockEnd) :
    pauseEnd now pause ≤ now + pause.nanoseconds := by
  unfold pauseEnd at hshown ⊢
  split_ifs at hshown ⊢ with hfits
  · exact le_rfl
  · omega

end Cooldown

namespace AuthoritySettings

variable {a : AuthoritySettings} {value : List UInt8} {headers : List (String × List UInt8)}
  {n : Nat} {d : Delivery} {pause asked left : Span}

/-! ## What a response asks for -/

/-- The bytes are a number of seconds of 64 bits, with spaces and tabs around it. -/
def NamesSeconds (value : List UInt8) (n : Nat) : Prop :=
  ∃ front cs back : List Char, value = bytes (.ofList (front ++ cs ++ back)) ∧
    (∀ c ∈ front ++ back, c = ' ' ∨ c = '\t') ∧ Tells cs n ∧ n ≤ word64Max

open Http.Request in
theorem secondsOf?_eq_some_iff : secondsOf? value = some n ↔ NamesSeconds value n := by
  rw [secondsOf?, Option.bind_eq_bind, Option.bind_eq_some_iff]
  constructor
  · rintro ⟨text, htext, hnumber⟩
    obtain ⟨rfl, hprintable⟩ := printable?_eq_some_iff.1 htext
    obtain ⟨htells, hmax⟩ := natural?_eq_some_iff.1 hnumber
    obtain ⟨front, back, hpieces, hfront, hback⟩ := (trims_trimChars text.toList).around
    refine ⟨front, trimChars text.toList, back, ?_, fun c hc => ?_, htells, hmax⟩
    · rw [← hpieces, String.ofList_toList]
    · rw [hpieces] at hprintable
      rcases List.mem_append.1 hc with hc | hc
      · exact blank_of_printable (hprintable c (by simp [hc])) (hfront c hc)
      · exact blank_of_printable (hprintable c (by simp [hc])) (hback c hc)
  · rintro ⟨front, cs, back, rfl, hblank, htells, hmax⟩
    obtain ⟨hfront, hback⟩ := List.forall_mem_append.1 hblank
    have hspace {c : Char} (h : c = ' ' ∨ c = '\t') : Printable c ∧ isBlank c := by
      rcases h with rfl | rfl
      · exact ⟨.inr (by decide), rfl⟩
      · exact ⟨.inl rfl, rfl⟩
    have hnumber {c : Char} (hc : c ∈ cs) : Printable c ∧ isBlank c = false := by
      have hcode := htells.code_of_mem hc
      exact ⟨.inr (by omega), isBlank_of_graphic (by omega) (by omega)⟩
    have hprintable : ∀ c ∈ (String.ofList (front ++ cs ++ back)).toList, Printable c := by
      rw [String.toList_ofList, List.forall_mem_append, List.forall_mem_append]
      exact ⟨⟨fun c hc => (hspace (hfront c hc)).1, fun c hc => (hnumber hc).1⟩,
        fun c hc => (hspace (hback c hc)).1⟩
    have htrims : Trims (front ++ cs ++ back) cs :=
      ⟨⟨front, back, rfl, fun c hc => (hspace (hfront c hc)).2,
          fun c hc => (hspace (hback c hc)).2⟩,
        fun c hc => (hnumber (List.mem_of_mem_head? hc)).2,
        fun c hc => (hnumber (List.mem_of_mem_getLast? hc)).2⟩
    refine ⟨_, printable?_of_printable hprintable, ?_⟩
    rw [String.toList_ofList, trimChars_of_trims htrims]
    exact natural?_eq_some_iff.2 ⟨htells, hmax⟩

/-- The pause that headers ask for, however long it is. -/
inductive Asks (a : AuthoritySettings) (headers : List (String × List UInt8)) : Span → Prop
  | named (value : List UInt8) (n : Nat) (first : headers.lookup "retry-after" = some value)
      (names : NamesSeconds value n) : Asks a headers (.seconds n)
  | default (unnamed : ∀ value n, headers.lookup "retry-after" = some value →
      ¬ NamesSeconds value n) : Asks a headers a.defaultPause

theorem asks_iff : a.Asks headers asked ↔
    asked = (((headers.lookup "retry-after").bind secondsOf?).map .seconds).getD a.defaultPause := by
  constructor
  · intro h
    cases h with
    | named value n first names =>
      rw [first, Option.bind_some, secondsOf?_eq_some_iff.2 names]
      rfl
    | default unnamed =>
      have hnone : (headers.lookup "retry-after").bind secondsOf? = none := by
        refine Option.bind_eq_none_iff.2 fun value first => ?_
        exact Option.eq_none_iff_forall_ne_some.2 fun n hn =>
          unnamed value n first (secondsOf?_eq_some_iff.1 hn)
      rw [hnone]
      rfl
  · rintro rfl
    cases h : (headers.lookup "retry-after").bind secondsOf? with
    | none =>
      refine .default fun value n first names => ?_
      rw [first, Option.bind_some, secondsOf?_eq_some_iff.2 names] at h
      cases h
    | some n =>
      obtain ⟨value, first, hn⟩ := Option.bind_eq_some_iff.1 h
      exact .named value n first (secondsOf?_eq_some_iff.1 hn)

/-- Headers ask for exactly one pause. -/
theorem existsUnique_asks (a : AuthoritySettings) (headers : List (String × List UInt8)) :
    ∃! asked, a.Asks headers asked := by
  simp only [asks_iff]
  exact existsUnique_eq

theorem pause_of_asks (h : a.Asks headers asked) :
    (a.pause headers).nanoseconds = min a.longestPause.nanoseconds asked.nanoseconds := by
  have hpause : a.pause headers = if asked > a.longestPause then a.longestPause else asked := by
    rw [asks_iff.1 h, pause]
    cases (headers.lookup "retry-after").bind secondsOf? <;> rfl
  rw [hpause]
  split_ifs with hlong
  · exact (Nat.min_eq_left (Nat.le_of_lt hlong)).symm
  · exact (Nat.min_eq_right (Nat.le_of_not_lt hlong)).symm

theorem pause_le (a : AuthoritySettings) (headers : List (String × List UInt8)) :
    a.pause headers ≤ a.longestPause := by
  obtain ⟨asked, hasked, -⟩ := a.existsUnique_asks headers
  exact (pause_of_asks hasked).trans_le (Nat.min_le_left _ _)

theorem interpret_fst_eq_rateLimited : (a.interpret d).1 = .error (.rateLimited pause) ↔
    d.status? = some 429 ∧ a.pause d.headers = pause := by
  cases d with
  | failed reason => simp [interpret, Delivery.status?]
  | response status headers body =>
    -- No failure but that of 429 is of this kind, and no other status is 429.
    dsimp only [interpret, Delivery.status?, Delivery.headers]
    split_ifs with h200 h204 h429
    · have hother : ¬ some status = some 429 := by simp [h200]
      simp only [hother, false_and, iff_false]
      split
      · simp
      · split <;> simp
    · simp [h204]
    · simp [h429]
    · simp [h429]
    · simp [h429]

theorem interpret_snd_eq_some : (a.interpret d).2 = some pause ↔
    (a.interpret d).1 = .error (.rateLimited pause) := by
  rw [interpret_fst_eq_rateLimited, interpret_snd]
  split_ifs with h <;> simp [h]

/-! ## What is left of a pause -/

/-- The states that the callers of an authority come to, when only its responses set pauses. Whoever
    gets one whose end the clock cannot show, nor that of a year instead, breaks off. -/
inductive Serves (a : AuthoritySettings) : Callers → Prop
  | start (now : Nat) : Serves a (.start now .idle)
  /-- time passes, or a caller does something that sets no pause -/
  | move {s s' : Callers} {m : CallerMove} (h : Serves a s) (quiet : m.pause? = none)
      (step : s.step? m = some s') : Serves a s'
  /-- a request ends -/
  | answer {s s' : Callers} {i : Nat} (d : Delivery) (h : Serves a s)
      (shown : ∀ pause, (a.interpret d).2 = some pause →
        Cooldown.pauseEnd s.now pause < Cooldown.clockEnd)
      (step : s.step? (.answer i (a.interpret d).2) = some s') : Serves a s'
  /-- callers break off, wherever they are -/
  | breakOff {s : Callers} (h : Serves a s) (gate : List Nat) (phase : Nat → CallerPhase) :
      Serves a { s with gate, phase }

end AuthoritySettings

namespace Callers

variable {s s' : Callers} {m : CallerMove} {n : Nat}

/-- A move that sets no pause leaves the deadline where it is, or forgets it. -/
theorem within_of_quiet (hs : s.cooldown.Within (s.now + n)) (hquiet : m.pause? = none)
    (h : s.step? m = some s') : s'.cooldown.Within (s'.now + n) := by
  have hlater : s.now + n ≤ s'.now + n := Nat.add_le_add_right (now_le_of_step? h) n
  refine Cooldown.Within.mono ?_ hlater
  cases step?_step h with
  | trip pause | tripped i pause => cases hquiet
  | clear i => rw [cooldown_openGate]; exact hs.clear s.now
  | _ => exact hs

/-- An answer puts the deadline off to the end of its pause at most. -/
theorem within_of_answer {i : Nat} {asked : Option Span}
    (hs : s.cooldown.Within (s.now + n))
    (hasked : ∀ pause, asked = some pause → Cooldown.pauseEnd s.now pause ≤ s.now + n)
    (h : s.step? (.answer i asked) = some s') : s'.cooldown.Within (s'.now + n) := by
  cases step?_step h with
  | answer i asking => exact hs
  | tripped i pause asking => exact hs.trip (hasked pause rfl)

end Callers

namespace AuthoritySettings

variable {a : AuthoritySettings} {s : Callers}

theorem Serves.within (h : a.Serves s) :
    s.cooldown.Within (s.now + a.longestPause.nanoseconds) := by
  induction h with
  | start now => exact nofun
  | move h quiet step ih => exact Callers.within_of_quiet ih quiet step
  | answer d h shown step ih =>
    refine Callers.within_of_answer ih (fun pause hpause => ?_) step
    have hlongest : pause ≤ a.longestPause := by
      rw [interpret_snd_eq_some, interpret_fst_eq_rateLimited] at hpause
      exact hpause.2 ▸ a.pause_le d.headers
    exact (Cooldown.pauseEnd_le (shown pause hpause)).trans (Nat.add_le_add_left hlongest _)
  | breakOff h gate phase ih => exact ih

end AuthoritySettings

/-- Whatever an authority answers and whenever, no more is ever left of a pause than the longest
    one. A request is told to wait exactly by a response of 429, and the wait is the shorter of the
    longest pause and what the response asks for, which is one pause whatever its headers are. It
    is this wait for which all callers pause. -/
theorem capped (a : AuthoritySettings) :
    (∀ s, a.Serves s → ∀ left, s.cooldown.remaining? s.now = some left → left ≤ a.longestPause) ∧
    (∀ d pause, (a.interpret d).1 = .error (.rateLimited pause) ↔
      d.status? = some 429 ∧ ∃ asked, a.Asks d.headers asked ∧
        pause.nanoseconds = min a.longestPause.nanoseconds asked.nanoseconds) ∧
    (∀ headers, ∃! asked, a.Asks headers asked) ∧
    ∀ d pause, (a.interpret d).2 = some pause ↔
      (a.interpret d).1 = .error (.rateLimited pause) := by
  refine ⟨fun s hs left hleft => hs.within.remaining_le hleft, fun d pause => ?_,
    a.existsUnique_asks, fun d pause => AuthoritySettings.interpret_snd_eq_some⟩
  rw [AuthoritySettings.interpret_fst_eq_rateLimited]
  refine and_congr_right fun _ => ?_
  constructor
  · rintro rfl
    obtain ⟨asked, hasked, -⟩ := a.existsUnique_asks d.headers
    exact ⟨asked, hasked, AuthoritySettings.pause_of_asks hasked⟩
  · rintro ⟨asked, hasked, hpause⟩
    have heq := (AuthoritySettings.pause_of_asks hasked).trans hpause.symm
    exact congrArg Span.mk heq

/-- The authority asks for the longest number of seconds there is, and ten minutes of them are
    left. A minus sign in front of it asks for the default pause. -/
theorem capped_huge :
    let a : AuthoritySettings := ⟨"http://authority", .seconds 5, .seconds 60, .seconds 600⟩
    let huge : Delivery := .response 429 [("retry-after", bytes "18446744073709551615")] none
    let negative : Delivery := .response 429 [("retry-after", bytes "-5")] none
    ∃ s, a.Serves s ∧ s.cooldown.remaining? s.now = some (.seconds 600) ∧
      Span.seconds 600 ≤ a.longestPause ∧
      (a.interpret huge).1 = .error (.rateLimited (.seconds 600)) ∧
      (a.interpret negative).1 = .error (.rateLimited (.seconds 60)) := by
  intro a huge negative
  obtain ⟨hleft, hcarried, -, hset⟩ := capped a
  have hhuge : a.Asks huge.headers (.seconds word64Max) :=
    .named _ _ rfl ⟨[], "18446744073709551615".toList, [],
      by rw [List.nil_append, List.append_nil, String.ofList_toList], nofun,
      .digits (digitsValue?_eq_some_iff.1 (by decide)), Nat.le_refl _⟩
  have hminus : a.Asks negative.headers (.seconds 60) := by
    refine .default fun value n hvalue hnames => ?_
    have hnone : AuthoritySettings.secondsOf? (bytes "-5") = none := by decide +kernel
    cases hvalue
    rw [AuthoritySettings.secondsOf?_eq_some_iff.2 hnames] at hnone
    cases hnone
  have hcapped := (hcarried huge (.seconds 600)).2 ⟨rfl, _, hhuge, by decide⟩
  have hdefault := (hcarried negative (.seconds 60)).2 ⟨rfl, _, hminus, by decide⟩
  -- A caller comes, sends its request and is answered so.
  obtain ⟨sent, hsent, hnow, hasking, hidle⟩ : ∃ sent, a.Serves sent ∧ sent.now = 0 ∧
      sent.phase 0 = .asking ∧ sent.cooldown = .idle := by
    have harrived := (AuthoritySettings.Serves.start (a := a) 0).move (m := .arrive 0) rfl rfl
    exact ⟨_, harrived.move (m := .send 0) rfl rfl, rfl, rfl, rfl⟩
  have hpause := (hset huge (.seconds 600)).2 hcapped
  let s : Callers :=
    { sent with cooldown := sent.cooldown.trip sent.now (.seconds 600) }.setPhase 0 .away
  have hanswer : sent.step? (.answer 0 (a.interpret huge).2) = some s := by
    rw [hpause, Callers.step?, if_pos hasking]
    rfl
  have hs : a.Serves s := by
    refine hsent.answer huge (fun pause hasked => ?_) hanswer
    rw [hpause] at hasked
    cases hasked
    rw [hnow]
    decide
  have hremaining : s.cooldown.remaining? s.now = some (.seconds 600) := by
    change (sent.cooldown.trip sent.now _).remaining? sent.now = _
    rw [hidle, hnow]
    rfl
  exact ⟨s, hs, hremaining, hleft s hs _ hremaining, hcapped, hdefault⟩

end Loyalty
