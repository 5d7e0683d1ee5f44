import Loyalty.Authority.Callers
import Loyalty.Authority.Client
import Loyalty.Proofs.Json.Records
import Loyalty.Proofs.Ledger.Outcomes

/-!
# Only a definite answer is final

Whatever ends a request to the authority, an order in hand becomes invalid only by
an answer that denies it (`Delivery.Denies`), and processed, with its points on a
balance, only by an answer that awards them (`Delivery.Awards`). Everything else
makes it new again and leaves the balances alone, and nothing but a response of 429
asks for a pause (`final_by_answer`).

* `interpret_fst_eq_ok`, `interpret_fst_eq_notRegistered`, `interpret_snd`: what the
  response must be for each reply and for a pause;
* `denies_iff`, `awards_iff`: the same for each end, from what the reply must be for it.
-/

namespace Loyalty

open Loyalty.Text

namespace Delivery

/-- The status of the response, if there is one. -/
def status? : Delivery → Option Nat
  | failed _ => none
  | response status _ _ => some status

/-- The headers of the response. -/
def headers : Delivery → List (String × List UInt8)
  | failed _ => []
  | response _ headers _ => headers

/-- The resolution that the body of the response is the text of. -/
def resolution? : Delivery → Option Resolution
  | response _ _ (some body) =>
    (Json.readWhole Json.readResolution (bytes (ofBytesLossy body))).toOption
  | _ => none

/-- A response of 200 brings a resolution with a status of that name. -/
def Resolves (d : Delivery) (name : String) (r : Resolution) : Prop :=
  d.status? = some 200 ∧ d.resolution? = some r ∧ r.status.name = name

/-- The authority does not know the order, or says that it is invalid. -/
def Denies (d : Delivery) : Prop :=
  d.status? = some 204 ∨ ∃ r, d.Resolves "INVALID" r

/-- The authority says that the order earns points: no less than nothing, and nothing
    if it names none. -/
def Awards (d : Delivery) (points : Amount) : Prop :=
  ∃ r, d.Resolves "PROCESSED" r ∧ r.points = points ∧ 0 ≤ points.value

end Delivery

variable {a : AuthoritySettings} {d : Delivery} {r : Resolution} {points : Amount}

/-! ## From responses to replies -/

namespace AuthoritySettings

/-- What can come of a request. -/
inductive Brings (a : AuthoritySettings) (d : Delivery) : Reply × Option Span → Prop
  | resolution (r : Resolution) (status : d.status? = some 200) (body : d.resolution? = some r) :
    Brings a d (.ok r, none)
  | denial (status : d.status? = some 204) : Brings a d (.error .notRegistered, none)
  | pause (status : d.status? = some 429) :
    Brings a d (.error (.rateLimited (a.pause d.headers)), some (a.pause d.headers))
  /-- a failure that may pass -/
  | failure (cause : AuthorityFailure) (passing : cause ≠ .notRegistered)
      (status : d.status? ≠ some 204 ∧ d.status? ≠ some 429)
      (body : d.status? = some 200 → d.resolution? = none) : Brings a d (.error cause, none)

theorem interpret_brings (a : AuthoritySettings) (d : Delivery) : a.Brings d (a.interpret d) := by
  cases d with
  | failed reason => exact .failure _ (by simp) (by simp [Delivery.status?]) nofun
  | response status headers body =>
    -- The status decides, and at 200 whether the body can be read.
    dsimp only [interpret]
    split_ifs with h200 h204 h429
    · have hstatus : status ≠ 204 ∧ status ≠ 429 := by omega
      have hother : Delivery.status? (.response status headers body) ≠ some 204 ∧
          Delivery.status? (.response status headers body) ≠ some 429 := by
        simpa [Delivery.status?] using hstatus
      cases body with
      | none => exact .failure _ (by simp) hother fun _ => rfl
      | some content =>
        dsimp only
        split
        · rename_i r hread
          exact .resolution r (congrArg some h200) (by simp [Delivery.resolution?, hread, Except.toOption])
        · rename_i fault hread
          exact .failure _ (by simp) hother
            fun _ => by simp [Delivery.resolution?, hread, Except.toOption]
    · exact .denial (congrArg some h204)
    · exact .pause (congrArg some h429)
    all_goals
      exact .failure _ (by simp) (by simp [Delivery.status?, h204, h429])
        fun h => absurd (Option.some.inj h) h200

theorem interpret_fst_eq_ok :
    (a.interpret d).1 = .ok r ↔ d.status? = some 200 ∧ d.resolution? = some r := by
  have hbrings := a.interpret_brings d
  generalize a.interpret d = result at hbrings
  cases hbrings with
  | resolution r' status body => simp [status, body]
  | denial status | pause status => simp [status]
  | failure cause passing status body =>
    simp only [reduceCtorEq, false_iff, not_and]
    exact fun h => by simp [body h]

theorem interpret_fst_eq_notRegistered :
    (a.interpret d).1 = .error .notRegistered ↔ d.status? = some 204 := by
  have hbrings := a.interpret_brings d
  generalize a.interpret d = result at hbrings
  cases hbrings with
  | resolution r status body | denial status | pause status => simp [status]
  | failure cause passing status body => simp [passing, status.1]

/-- A pause is asked for by a response of 429 only. -/
theorem interpret_snd (a : AuthoritySettings) (d : Delivery) :
    (a.interpret d).2 = if d.status? = some 429 then some (a.pause d.headers) else none := by
  have hbrings := a.interpret_brings d
  generalize a.interpret d = result at hbrings
  cases hbrings with
  | resolution r status body | denial status | pause status => simp [status]
  | failure cause passing status body => rw [if_neg status.2]

end AuthoritySettings

/-- The name in the text decides the status of a resolution that came. -/
theorem Delivery.status_of_resolution? (h : d.resolution? = some r) :
    .ofText r.status.name = r.status := by
  cases d with
  | failed reason => cases h
  | response status headers body =>
    cases body with
    | none => cases h
    | some content =>
      rw [Delivery.resolution?] at h
      cases hread : Json.readWhole Json.readResolution (bytes (ofBytesLossy content)) with
      | error fault => simp [hread, Except.toOption] at h
      | ok r' =>
        simp only [hread, Except.toOption, Option.some.injEq] at h
        subst h
        obtain ⟨⟨r, rest⟩, hr, hend⟩ := bind_eq_ok.1 hread
        dsimp only at hend
        split_ifs at hend
        cases hend
        exact Json.ofText_name_of_readResolution hr

/-! ## From responses to settlements -/

/-- Of a status that is a name's, the name decides. -/
theorem Delivery.status_eq_iff (h : d.resolution? = some r) {status : ResolutionStatus}
    (hname : .ofText status.name = status) : r.status = status ↔ r.status.name = status.name := by
  refine ⟨congrArg _, fun hr => ?_⟩
  rw [← Delivery.status_of_resolution? h, hr, hname]

theorem denies_iff : Settlement.ofReply (a.interpret d).1 = .refuse ↔ d.Denies := by
  simp only [Settlement.ofReply_eq_refuse, Reply.Denies, a.interpret_fst_eq_notRegistered,
    a.interpret_fst_eq_ok, Delivery.Denies, Delivery.Resolves, and_assoc]
  refine or_congr_right (exists_congr fun r => and_congr_right fun _ => ?_)
  exact and_congr_right fun h => Delivery.status_eq_iff h rfl

theorem awards_iff :
    Settlement.ofReply (a.interpret d).1 = .credit points ↔ d.Awards points := by
  simp only [Settlement.ofReply_eq_credit, Reply.Awards, a.interpret_fst_eq_ok, Delivery.Awards,
    Delivery.Resolves, and_assoc]
  refine exists_congr fun r => and_congr_right fun _ => and_congr_right fun h => ?_
  rw [Delivery.status_eq_iff h rfl, ResolutionStatus.name]

theorem giveBack_of_neither (hdenies : ¬ d.Denies) (hawards : ∀ points, ¬ d.Awards points) :
    Settlement.ofReply (a.interpret d).1 = .giveBack := by
  cases hsettlement : Settlement.ofReply (a.interpret d).1 with
  | refuse => exact absurd (denies_iff.1 hsettlement) hdenies
  | credit points => exact absurd (awards_iff.1 hsettlement) (hawards points)
  | giveBack => rfl

/-- A caller that gets its answer makes the pause that it asks for. -/
theorem Callers.cooldown_of_answer {callers callers' : Callers} {caller : Nat}
    {pause : Option Span} (h : callers.step? (.answer caller pause) = some callers') :
    callers'.cooldown =
      (pause.map (callers.cooldown.trip callers.now)).getD callers.cooldown := by
  simp only [Callers.step?] at h
  split_ifs at h
  cases pause <;> cases h <;> rfl

/-- However a request about an order in hand ends, while the store is not told to
    fail: the order becomes invalid exactly if it is denied. It becomes processed
    only if it is awarded points, and then does so if its user has a balance with
    room for them. No balance changes but that of its user, together with the order
    becoming processed. By every other end the order becomes new again, and no
    balance changes. A pause is made exactly by a response of 429. -/
theorem final_by_answer (a : AuthoritySettings) {s : Store} {order o : Order} (hquiet : s.Quiet)
    (ho : s.order? order.id = some o) (hinHand : o.status = .processing)
    (howner : o.user = order.user) (d : Delivery) :
    let s' := (s.settle order (a.interpret d).1).2
    let status := (s'.order? order.id).map (·.status)
    (status = some .invalid ↔ d.Denies) ∧
    (status = some .processed → ∃ points b b', d.Awards points ∧
      s.balance? o.user = some b ∧ b.credit points = .ok b') ∧
    (∀ points b b', d.Awards points → s.balance? o.user = some b → b.credit points = .ok b' →
      s' = s.setCredited o points b') ∧
    (∀ user, s'.balance? user ≠ s.balance? user → user = o.user ∧ status = some .processed) ∧
    (¬ d.Denies → (∀ points, ¬ d.Awards points) →
      status = some .new ∧ s'.balances = s.balances) ∧
    ∀ (callers callers' : Callers) (caller : Nat),
      callers.step? (.answer caller (a.interpret d).2) = some callers' →
      callers'.cooldown = if d.status? = some 429 then
        callers.cooldown.trip callers.now (a.pause d.headers) else callers.cooldown := by
  intro s' status
  have hsettles := Store.settle_settles hquiet ho (a.interpret d).1
  refine ⟨?_, fun hprocessed => ?_, fun points b b' hawards hb hcredit => ?_, fun user hne => ?_,
    fun hdenies hawards => ?_, fun callers callers' caller hanswer => ?_⟩
  · rw [hsettles.status_eq_invalid ho hinHand, denies_iff]
  · obtain ⟨points, b, b', hpoints, hb, hcredit⟩ :=
      hsettles.credit_of_processed ho hinHand hprocessed
    exact ⟨points, b, b', awards_iff.1 hpoints, howner ▸ hb, hcredit⟩
  · rw [awards_iff.2 hawards] at hsettles
    rw [howner] at hb
    -- The order may be passed as it was before it was claimed, but not its user.
    have hid : o.id = order.id := Store.id_of_order? ho
    have hsame : s.setCredited o points b' = s.setCredited order points b' := by
      rw [Store.setCredited, Store.setCredited, hid, howner]
    exact (hsettles.eq_setCredited hb hcredit).trans hsame.symm
  · rw [howner]
    exact hsettles.processed_of_balance_ne ho hne
  · rw [giveBack_of_neither hdenies hawards] at hsettles
    exact hsettles.status_of_giveBack ho
  · rw [Callers.cooldown_of_answer hanswer, a.interpret_snd d]
    split_ifs <;> rfl

/-- An award of less than nothing is no answer: the order is new again. -/
theorem final_by_answer_negative :
    let a : AuthoritySettings := ⟨"http://authority", .seconds 5, .seconds 60, .seconds 600⟩
    let s := Store.empty.performAll [.register 1 [] "ann" "pw", .submit "18" 1 ⟨0, 0⟩,
      .claim ⟨1, 1, "18", .new, none, ⟨0, 0⟩⟩]
    let order : Order := ⟨1, 1, "18", .new, none, ⟨0, 0⟩⟩
    let d : Delivery := .response 200 [] (some (bytes "[\"18\",\"PROCESSED\",-5]"))
    s.order? 1 = some { order with status := .processing } ∧
      ((s.settle order (a.interpret d).1).2.order? 1).map (·.status) = some .new := by
  intro a s order d
  have hresolution : d.resolution? = some ⟨"18", .processed, Amount.ofParts? true 5 0⟩ := by
    decide +kernel
  have hdenies : ¬ d.Denies := by
    rintro (hstatus | ⟨r, -, hr, hname⟩)
    · cases hstatus
    · cases hresolution.symm.trans hr
      exact absurd hname (by decide)
  have hawards (points : Amount) : ¬ d.Awards points := by
    rintro ⟨r, ⟨-, hr, -⟩, rfl, hnonneg⟩
    cases hresolution.symm.trans hr
    exact absurd hnonneg (by decide)
  have ho : s.order? order.id = some { order with status := .processing } := rfl
  exact ⟨ho, ((final_by_answer a ⟨rfl, fun _ => rfl⟩ ho rfl rfl d).2.2.2.2.1 hdenies hawards).1⟩

end Loyalty
