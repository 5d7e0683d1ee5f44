import Loyalty.Proofs.Ledger.Settling

/-!
# How settling ends

An order is settled by one write, and by a second one where the store refuses the
first.

* `ofReply_eq_refuse`, `ofReply_eq_credit`, `ofReply_eq_giveBack`: what the answer must be
  for each end;
* `settle_of_written`, `settle_of_refused`, `settle_of_refused_again`, `settle_eq_ok`: how
  settling goes on from the first write; `Declines`: when the store refuses that one;
* `settle_of_refuse`, `settle_of_giveBack`, `settle_of_credit`: what comes of one that it
  takes;
* `settle_settles`: all that can come of settling while no operation is told to
  fail (`Store.Settles`). A credit still fails where the user has no balance, and
  breaks off where the balance overflows.
-/

namespace Loyalty

/-- An order that is processed is credited with its points unless they are less than
    nothing. -/
theorem Settlement.ofReply_of_processed {r : Resolution} (h : r.status = .processed) :
    ofReply (.ok r) = if 0 ≤ r.points.value then .credit r.points else .giveBack := by
  have hcheck : r.points.checkCredit.isOk ↔ 0 ≤ r.points.value := by
    rw [← Amount.checkCredit_eq_ok]
    cases r.points.checkCredit <;> simp [Except.isOk, Except.toBool]
  simp only [ofReply, h, hcheck]

/-- The authority does not know the order, or calls it invalid. -/
def Reply.Denies (reply : Reply) : Prop :=
  reply = .error .notRegistered ∨ ∃ r, reply = .ok r ∧ r.status = .invalid

/-- The authority calls the order processed, for points that are not negative. -/
def Reply.Awards (reply : Reply) (points : Amount) : Prop :=
  ∃ r, reply = .ok r ∧ r.status = .processed ∧ r.points = points ∧ 0 ≤ points.value

namespace Settlement

variable {reply : Reply} {points : Amount}

theorem ofReply_eq_refuse : ofReply reply = .refuse ↔ reply.Denies := by
  rw [Reply.Denies]
  cases reply with
  | error cause => cases cause <;> simp [ofReply]
  | ok r =>
    cases hstatus : r.status <;> simp only [ofReply, hstatus]
    case processed => split_ifs <;> simp [hstatus]
    all_goals simp [hstatus]

theorem ofReply_eq_credit : ofReply reply = .credit points ↔ reply.Awards points := by
  rw [Reply.Awards]
  cases reply with
  | error cause => cases cause <;> simp [ofReply]
  | ok r =>
    cases hstatus : r.status
    case processed =>
      rw [ofReply_of_processed hstatus]
      split_ifs with hnonneg
      · simp only [credit.injEq, Except.ok.injEq, exists_eq_left', hstatus, true_and]
        exact ⟨fun h => ⟨h, h ▸ hnonneg⟩, fun h => h.1⟩
      · simp only [Except.ok.injEq, exists_eq_left', hstatus, true_and, false_iff]
        exact fun h => hnonneg (h.1 ▸ h.2)
    all_goals simp [ofReply, hstatus]

theorem ofReply_eq_giveBack :
    ofReply reply = .giveBack ↔ ¬ reply.Denies ∧ ∀ points, ¬ reply.Awards points := by
  rw [← ofReply_eq_refuse, ← forall_congr' fun _ => not_congr ofReply_eq_credit]
  cases ofReply reply <;> simp

end Settlement

namespace Store

variable {s s' : Store} {order o : Order} {reply : Reply} {settlement : Settlement} {f : Failure}

/-- The store with an order in another status. -/
def setStatus (s : Store) (id : Int) (status : OrderStatus) : Store :=
  s.updateOrder id fun o => { o with status }

/-- The store with an order processed and its points on the balance of its user. -/
def setCredited (s : Store) (order : Order) (points : Amount) (b : Balance) : Store :=
  (s.updateOrder order.id fun o =>
    { o with status := .processed, accrual := some points }).setBalance order.user b

theorem order?_setStatus (ho : s.order? order.id = some o) (status : OrderStatus) :
    (s.setStatus order.id status).order? order.id = some { o with status } :=
  order?_updateOrder_self (fun _ => rfl) ho

theorem order?_setCredited (ho : s.order? order.id = some o) (points : Amount) (b : Balance) :
    (s.setCredited order points b).order? order.id =
      some { o with status := .processed, accrual := some points } :=
  (order?_congr rfl order.id).trans (order?_updateOrder_self (fun _ => rfl) ho)

/-! ## Making an order new -/

theorem release_of_found (hquiet : s.faults.marks .new = 0) (ho : s.order? order.id = some o) :
    s.release order = (.ok (), s.setStatus order.id .new) :=
  mark_of_found hquiet ho (by decide)

theorem release_of_told (htold : 0 < s.faults.marks .new) (order : Order) :
    s.release order = (fails (.internal (.markRefused order.id .new)), s.dropMarkFault .new) :=
  mark_of_told htold (by decide) order.id

/-! ## One write or two -/

theorem settle_of_written (h : s.write order (.ofReply reply) = (.ok (), s')) :
    s.settle order reply = (.ok (.ofReply reply), s') := by
  rw [settle, h]

theorem settle_of_overflow (h : s.write order (.ofReply reply) = (.error .overflow, s')) :
    s.settle order reply = (.error .overflow, s') := by
  rw [settle, h]

theorem settle_of_refuse (hasks : Settlement.ofReply reply = .refuse)
    (hquiet : s.faults.marks .invalid = 0) (ho : s.order? order.id = some o) :
    s.settle order reply = (.ok .refuse, s.setStatus order.id .invalid) := by
  have hwrite : s.write order (.ofReply reply) = (.ok (), s.setStatus order.id .invalid) := by
    rw [hasks]
    exact mark_of_found hquiet ho (by decide)
  rw [settle_of_written hwrite, hasks]

theorem settle_of_giveBack (hasks : Settlement.ofReply reply = .giveBack)
    (hquiet : s.faults.marks .new = 0) (ho : s.order? order.id = some o) :
    s.settle order reply = (.ok .giveBack, s.setStatus order.id .new) := by
  have hwrite : s.write order (.ofReply reply) = (.ok (), s.setStatus order.id .new) := by
    rw [hasks]
    exact release_of_found hquiet ho
  rw [settle_of_written hwrite, hasks]

theorem settle_of_credit {points : Amount} {b b' : Balance}
    (hasks : Settlement.ofReply reply = .credit points) (hquiet : s.faults.credits = 0)
    (hb : s.balance? order.user = some b) (ho : s.order? order.id = some o)
    (hcredit : b.credit points = .ok b') :
    s.settle order reply = (.ok (.credit points), s.setCredited order points b') := by
  have hwrite : s.write order (.ofReply reply) = (.ok (), s.setCredited order points b') := by
    rw [hasks, write, credit_of_found hquiet hb ho, hcredit]
    rfl
  rw [settle_of_written hwrite, hasks]

/-- A credit or a refusal that fails is followed by making the order new, which
    succeeds if it is not told to fail; the first failure is reported. -/
theorem settle_of_refused (h : s.write order (.ofReply reply) = (fails f, s'))
    (hfinal : Settlement.ofReply reply ≠ .giveBack) (hnew : s'.faults.marks .new = 0)
    (ho : s'.order? order.id = some o) :
    s.settle order reply = (fails f, s'.setStatus order.id .new) := by
  simp only [settle, h, fails, if_neg hfinal, revert, release_of_found hnew ho]

/-- Where making the order new is told to fail too, that failure is reported. -/
theorem settle_of_refused_again (h : s.write order (.ofReply reply) = (fails f, s'))
    (hfinal : Settlement.ofReply reply ≠ .giveBack) (hnew : 0 < s'.faults.marks .new) :
    s.settle order reply =
      (fails (.internal (.markRefused order.id .new)), s'.dropMarkFault .new) := by
  simp only [settle, h, fails, if_neg hfinal, revert, release_of_told hnew order]

/-- The store does not take what the answer makes of an order: it is told to fail, or there
    is no balance to credit. -/
inductive Declines (s : Store) (order : Order) (reply : Reply) : Failure → Prop
  | denial (denies : reply.Denies) (told : 0 < s.faults.marks .invalid) :
    Declines s order reply (.internal (.markRefused order.id .invalid))
  | award (points : Amount) (awards : reply.Awards points) (told : 0 < s.faults.credits) :
    Declines s order reply (.internal (.creditRefused order.id))
  | unowned (points : Amount) (awards : reply.Awards points) (quiet : s.faults.credits = 0)
      (balance : s.balance? order.user = none) :
    Declines s order reply (.userNotFound (toString order.user))

/-- What is written then fails and changes no row. Making the order new is told to fail as
    often as before. -/
theorem Declines.write (h : s.Declines order reply f) :
    Settlement.ofReply reply ≠ .giveBack ∧ ∃ s', s.write order (.ofReply reply) = (fails f, s') ∧
      s'.rows = s.rows ∧ s'.faults.marks .new = s.faults.marks .new := by
  cases h with
  | denial hdenies htold =>
    rw [Settlement.ofReply_eq_refuse.2 hdenies]
    exact ⟨nofun, _, mark_of_told htold (by decide) order.id, rfl, rfl⟩
  | award points hawards htold =>
    rw [Settlement.ofReply_eq_credit.2 hawards]
    exact ⟨nofun, _, credit_of_told htold order points, rfl, rfl⟩
  | unowned points hawards hquiet hb =>
    rw [Settlement.ofReply_eq_credit.2 hawards]
    exact ⟨nofun, s, credit_of_no_balance hquiet hb points, rfl, rfl⟩

/-- Settling succeeds by its first write only. -/
theorem settle_eq_ok (h : s.settle order reply = (.ok settlement, s')) :
    settlement = .ofReply reply ∧ s.write order (.ofReply reply) = (.ok (), s') := by
  rcases hwrite : s.write order (.ofReply reply) with ⟨result, t⟩
  cases result with
  | ok u =>
    rw [settle_of_written hwrite] at h
    cases h
    exact ⟨rfl, rfl⟩
  | error e =>
    cases e with
    | overflow =>
      rw [settle_of_overflow hwrite] at h
      cases h
    | failure f =>
      simp only [settle, hwrite] at h
      split_ifs at h
      · cases h
      · rw [revert] at h
        split at h <;> cases h

/-! ## While nothing is told to fail -/

/-- What can come of settling while no operation is told to fail. -/
inductive Settles (s : Store) (order : Order) : Settlement → Outcome Settlement × Store → Prop
  | refused : Settles s order .refuse (.ok .refuse, s.setStatus order.id .invalid)
  | givenBack : Settles s order .giveBack (.ok .giveBack, s.setStatus order.id .new)
  | credited (points : Amount) (b b' : Balance) (balance : s.balance? order.user = some b)
      (credit : b.credit points = .ok b') :
    Settles s order (.credit points) (.ok (.credit points), s.setCredited order points b')
  /-- the user has no balance -/
  | uncredited (points : Amount) (balance : s.balance? order.user = none) :
    Settles s order (.credit points)
      (fails (.userNotFound (toString order.user)), s.setStatus order.id .new)
  | brokenOff (points : Amount) (b : Balance) (balance : s.balance? order.user = some b)
      (credit : b.credit points = .error .overflow) :
    Settles s order (.credit points) (.error .overflow, s)

theorem settle_settles (hquiet : s.Quiet) (ho : s.order? order.id = some o) (reply : Reply) :
    s.Settles order (.ofReply reply) (s.settle order reply) := by
  cases hsettlement : Settlement.ofReply reply with
  | refuse =>
    rw [settle_of_refuse hsettlement (hquiet.marks .invalid) ho]
    exact .refused
  | giveBack =>
    rw [settle_of_giveBack hsettlement (hquiet.marks .new) ho]
    exact .givenBack
  | credit points =>
    have hwrite : s.write order (.ofReply reply) = s.credit order points := by
      rw [hsettlement, write]
    cases hb : s.balance? order.user with
    | none =>
      have hcredit := credit_of_no_balance hquiet.credits hb points
      rw [settle_of_refused (hwrite.trans hcredit) (by simp [hsettlement]) (hquiet.marks .new) ho]
      exact .uncredited points hb
    | some b =>
      have hnonneg := Settlement.nonneg_of_ofReply hsettlement
      cases hsum : b.credit points with
      | ok b' =>
        rw [settle_of_credit hsettlement hquiet.credits hb ho hsum]
        exact .credited points b b' hb hsum
      | error e =>
        have hcredit := credit_of_found hquiet.credits hb ho points
        rw [hsum] at hcredit
        -- The amount passes the check, so that only the sum can fail.
        have he : e = .overflow := by
          rw [Balance.credit, Amount.checkCredit_eq_ok.2 hnonneg] at hsum
          cases hadd : b.current.add? points <;> simp [hadd] at hsum
          exact hsum.symm
        subst he
        rw [settle_of_overflow (hwrite.trans hcredit)]
        exact .brokenOff points b hb hsum

namespace Settles

variable {result : Outcome Settlement × Store}

/-- Only a refusal makes an order in hand invalid. -/
theorem status_eq_invalid (h : s.Settles order settlement result)
    (ho : s.order? order.id = some o) (hinHand : o.status = .processing) :
    (result.2.order? order.id).map (·.status) = some .invalid ↔ settlement = .refuse := by
  cases h with
  | refused => simp [order?_setStatus ho]
  | givenBack => simp [order?_setStatus ho]
  | credited points b b' => simp [order?_setCredited ho]
  | uncredited points => simp [order?_setStatus ho]
  | brokenOff points b => simp [ho, hinHand]

/-- Only a credit that is done makes an order in hand processed. -/
theorem credit_of_processed (h : s.Settles order settlement result)
    (ho : s.order? order.id = some o) (hinHand : o.status = .processing)
    (hprocessed : (result.2.order? order.id).map (·.status) = some .processed) :
    ∃ points b b', settlement = .credit points ∧ s.balance? order.user = some b ∧
      b.credit points = .ok b' := by
  cases h with
  | refused | givenBack | uncredited => simp [order?_setStatus ho] at hprocessed
  | credited points b b' hb hcredit => exact ⟨points, b, b', rfl, hb, hcredit⟩
  | brokenOff => simp [ho, hinHand] at hprocessed

/-- Only a balance of the user changes, and only with a credit that is done. -/
theorem processed_of_balance_ne (h : s.Settles order settlement result)
    (ho : s.order? order.id = some o) {user : Int}
    (hne : result.2.balance? user ≠ s.balance? user) :
    user = order.user ∧ (result.2.order? order.id).map (·.status) = some .processed := by
  cases h with
  | refused | givenBack | uncredited | brokenOff => exact absurd rfl hne
  | credited points b b' =>
    refine ⟨?_, by simp [order?_setCredited ho]⟩
    by_contra huser
    exact hne (balance?_setBalance_of_ne huser _ b')

/-- An order that is given back is new again. -/
theorem status_of_giveBack (h : s.Settles order .giveBack result)
    (ho : s.order? order.id = some o) :
    (result.2.order? order.id).map (·.status) = some .new ∧ result.2.balances = s.balances := by
  cases h
  exact ⟨by simp [order?_setStatus ho], rfl⟩

/-- A credit that the balance has room for is done. -/
theorem eq_setCredited {points : Amount} {b b' : Balance}
    (h : s.Settles order (.credit points) result) (hb : s.balance? order.user = some b)
    (hcredit : b.credit points = .ok b') : result.2 = s.setCredited order points b' := by
  cases h with
  | credited _ c c' hc hc' =>
    cases hb.symm.trans hc
    cases hcredit.symm.trans hc'
    rfl
  | uncredited _ hnone => cases hb.symm.trans hnone
  | brokenOff _ c hc hover =>
    cases hb.symm.trans hc
    cases hcredit.symm.trans hover

end Settles

end Store
end Loyalty
