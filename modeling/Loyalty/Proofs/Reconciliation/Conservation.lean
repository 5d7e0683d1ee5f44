import Loyalty.Proofs.Ledger.Balances
import Loyalty.Proofs.Reconciliation.Turn

/-!
# No points are lost

As long as all that is credited are whole hundredths, and no user is credited
with more of them than 96 bits can count (`Moderate`), nothing overflows, and
every balance is what it stands for: what a user has withdrawn are the user's
withdrawals, and what the user has altogether are the accruals of the user's
processed orders.

* `Conserved.storeStep`: every change of the store keeps this;
* `conserved`: it holds at every point of every run from the empty store on.
-/

namespace Loyalty.Reconciliation

/-- The amounts that a user's balance was asked to take: those that were
    credited, and those of which the addition overflowed. -/
def addedTo (log : List Entry) (user : Int) : List Amount :=
  log.filterMap fun
    | (.credit order points, .ok _) | (.credit order points, .error .overflow) =>
      if order.user = user then some points else none
    | _ => none

/-- Only whole hundredths are credited, and to no user more than can be counted. -/
structure Moderate (log : List Entry) : Prop where
  hundredths : ∀ user, ∀ a ∈ addedTo log user, (Amount.hundredth : Int) ∣ a.value
  total_le : ∀ user, Amount.total (addedTo log user) ≤ Amount.ceiling

/-- Nothing overflowed, every user's balance is what it stands for, and what a
    user earned is what was added. -/
structure Conserved (log : List Entry) (s : Store) : Prop where
  fits : ∀ u, (u, .error .overflow) ∉ log
  balanced : ∀ user, s.Balanced user
  added : ∀ user, Amount.total (s.accrualsOf user) = Amount.total (addedTo log user)

variable {s s' : Store} {log : List Entry} {r : Option Entry} {user : Int}

theorem addedTo_append (log log' : List Entry) (user : Int) :
    addedTo (log ++ log') user = addedTo log user ++ addedTo log' user := List.filterMap_append

theorem addedTo_mark (order : Order) (status : OrderStatus) (result : Outcome Unit) (user : Int) :
    addedTo [(.mark order status, result)] user = [] := rfl

theorem addedTo_fails (u : Update) (f : Failure) (user : Int) :
    addedTo [(u, fails f)] user = [] := by
  cases u <;> rfl

theorem addedTo_credit (order : Order) (points : Amount) (user : Int) :
    addedTo [(.credit order points, .ok ())] user =
      if order.user = user then [points] else [] := by
  by_cases huser : order.user = user <;> simp [addedTo, huser]

theorem addedTo_overflow (order : Order) (points : Amount) (user : Int) :
    addedTo [(.credit order points, .error .overflow)] user =
      if order.user = user then [points] else [] := by
  by_cases huser : order.user = user <;> simp [addedTo, huser]

/-- What is added is not negative. -/
theorem StoreStep.nonneg (h : StoreStep s s' r) : ∀ a ∈ addedTo r.toList user, 0 ≤ a.value := by
  intro a ha
  cases h with
  | stays store => exact absurd ha List.not_mem_nil
  | client move store => exact absurd ha List.not_mem_nil
  | update u result store stored fits =>
    cases u with
    | mark order status => exact absurd ha List.not_mem_nil
    | credit order points =>
      rcases s.credit_spec order points with ⟨b, b', -, hb, -, e⟩ | ⟨f, t, e, -⟩ | ⟨b, -, hb, e⟩ <;>
        rw [Update.apply, e] at store <;> cases store
      · rw [Option.toList_some, addedTo_credit] at ha
        split_ifs at ha <;> simp at ha
        exact ha ▸ Balance.nonneg_of_credit hb (by simp [fails])
      · rw [Option.toList_some, addedTo_fails] at ha
        exact absurd ha List.not_mem_nil
      · rw [Option.toList_some, addedTo_overflow] at ha
        split_ifs at ha <;> simp at ha
        exact ha ▸ Balance.nonneg_of_credit hb (by simp [fails])

theorem Moderate.of_append {log' : List Entry} (h : Moderate (log ++ log'))
    (hnonneg : ∀ user, ∀ a ∈ addedTo log' user, 0 ≤ a.value) : Moderate log := by
  refine ⟨fun user a ha => h.hundredths user a ?_, fun user => ?_⟩
  · rw [addedTo_append]
    exact List.mem_append_left _ ha
  · have htotal := h.total_le user
    have hrest := Amount.total_nonneg (hnonneg user)
    rw [addedTo_append, Amount.total_append] at htotal
    omega

/-- What users do keeps a store balanced, and adds nothing to what they earned. -/
theorem balanced_apply (move : ClientMove) (h : s.Balanced user) :
    (move.apply s).Balanced user ∧
      Amount.total ((move.apply s).accrualsOf user) = Amount.total (s.accrualsOf user) := by
  cases move.apply_effect s with
  | stays rows =>
    refine ⟨h.of_rows rows, ?_⟩
    rw [Store.accrualsOf, Store.accrualsOf, Store.orders_of_rows rows]
  | user login passwordHash store =>
    rw [store]
    exact ⟨h.addUser login passwordHash, rfl⟩
  | order number owner now fresh store =>
    rw [store]
    exact ⟨h.addOrder number owner now, Store.total_addOrder s number owner now user⟩
  | withdrawal number amount owner now b b' checked balance debit store =>
    rw [store]
    exact ⟨h.withdraw balance checked debit number now, rfl⟩

theorem Update.Fits.status_ne {u : Update} (h : u.Fits) : u.order.status ≠ .processed := by
  intro hstatus
  have hopen := h.not_isFinal
  rw [hstatus] at hopen
  cases hopen

namespace Conserved

theorem append {entry : Entry} (h : Conserved log s) (hfits : entry.2 ≠ .error .overflow)
    (hbalanced : ∀ user, s'.Balanced user)
    (hadded : ∀ user, Amount.total (s'.accrualsOf user) =
      Amount.total (s.accrualsOf user) + Amount.total (addedTo [entry] user)) :
    Conserved (log ++ [entry]) s' := by
  refine ⟨fun u hu => ?_, hbalanced, fun user => ?_⟩
  · rcases List.mem_append.1 hu with hu | hu
    · exact h.fits u hu
    · rw [List.mem_singleton] at hu
      exact hfits (hu ▸ rfl)
  · rw [addedTo_append, Amount.total_append, hadded, h.added]

/-- An update that fails changes and adds nothing. -/
theorem fails {u : Update} {f : Failure} (h : Conserved log s) (hrows : s'.rows = s.rows) :
    Conserved (log ++ [(u, Loyalty.fails f)]) s' := by
  refine h.append (by simp [Loyalty.fails]) (fun user => (h.balanced user).of_rows hrows)
    fun user => ?_
  rw [addedTo_fails, Amount.total_nil, Int.add_zero, Store.accrualsOf, Store.accrualsOf,
    Store.orders_of_rows hrows]

theorem mark {order : Order} {status : OrderStatus} {result : Outcome Unit} (h : Conserved log s)
    (hs : (s.orders.map (·.id)).Nodup) (hold : order.status ≠ .processed)
    (hstored : s.order? order.id = some order)
    (hu : (Update.mark order status).apply s = (result, s')) :
    Conserved (log ++ [(.mark order status, result)]) s' := by
  rcases s.mark_spec order.id status with ⟨e, hnew, -⟩ | ⟨f, t, e, hrows⟩ <;>
    rw [Update.apply, e] at hu <;> cases hu
  · refine h.append (by simp) (fun user => (h.balanced user).mark hs hstored hold hnew)
      fun user => ?_
    rw [addedTo_mark, Amount.total_nil, Int.add_zero, Store.total_mark hs hstored hold hnew]
  · exact h.fails hrows

/-- A moderate credit does not overflow, and adds what is credited. -/
theorem credit {order : Order} {points : Amount} {result : Outcome Unit} (h : Conserved log s)
    (hs : (s.orders.map (·.id)).Nodup) (hold : order.status ≠ .processed)
    (hstored : s.order? order.id = some order)
    (hu : (Update.credit order points).apply s = (result, s'))
    (hmoderate : Moderate (log ++ [(.credit order points, result)])) :
    Conserved (log ++ [(.credit order points, result)]) s' := by
  have hbalanced := h.balanced order.user
  have hdvd := hmoderate.hundredths order.user points
  have hle := hmoderate.total_le order.user
  rw [addedTo_append] at hdvd
  rw [addedTo_append, Amount.total_append, ← h.added] at hle
  rcases s.credit_spec order points with ⟨b, b', hb, hcredit, -, e⟩ | ⟨f, t, e, hrows⟩ |
    ⟨b, hb, hcredit, e⟩ <;> rw [Update.apply, e] at hu <;> cases hu
  · rw [addedTo_credit, if_pos rfl] at hdvd hle
    rw [Amount.total_cons, Amount.total_nil, Int.add_zero] at hle
    refine h.append (by simp) (fun user => ?_) fun user => ?_
    · refine (h.balanced user).credit hs hstored hold hb hcredit (hdvd (by simp)) ?_
      rintro rfl
      exact hle
    · rw [addedTo_credit, Store.total_credit hs hstored hold]
      split_ifs <;> simp
  · exact h.fails hrows
  · -- The sum cannot overflow: it is a number of hundredths that can be counted.
    rw [addedTo_overflow, if_pos rfl] at hdvd hle
    rw [Amount.total_cons, Amount.total_nil, Int.add_zero] at hle
    have hnonneg : 0 ≤ points.value :=
      Balance.nonneg_of_credit hcredit (by simp [Loyalty.fails])
    have hpurse : s.purse order.user = b := Store.purse_eq hb
    obtain ⟨hsound, -, hearned⟩ := hbalanced
    rw [hpurse] at hsound hearned
    obtain ⟨b', hb', -⟩ := hsound.credit (hdvd (by simp)) hnonneg (hearned ▸ hle)
    rw [hcredit] at hb'
    cases hb'

/-- Every change of the store conserves the points, as long as credits are
    moderate. -/
theorem storeStep (h : Conserved log s) (hs : s.Numbered) (hstep : StoreStep s s' r)
    (hmoderate : Moderate (log ++ r.toList)) : Conserved (log ++ r.toList) s' := by
  cases hstep with
  | stays store =>
    rw [store, Option.toList_none, List.append_nil]
    exact h
  | client move store =>
    rw [store, Option.toList_none, List.append_nil]
    refine ⟨h.fits, fun user => (balanced_apply move (h.balanced user)).1, fun user => ?_⟩
    rw [(balanced_apply move (h.balanced user)).2, h.added user]
  | update u result hu hstored hfits =>
    cases u with
    | mark order status => exact h.mark hs.nodup_orders hfits.status_ne hstored hu
    | credit order points => exact h.credit hs.nodup_orders hfits.status_ne hstored hu hmoderate

/-- Nothing that users spend overflows. -/
theorem spend_fits (h : Conserved log s) (raw : String) (amount : Amount) (user : Int)
    (now : Timestamp) : (s.spend raw amount user now).1 ≠ .error .overflow := by
  cases hn : OrderNumber.read raw with
  | error cause => simp [Store.spend, hn, Loyalty.fails]
  | ok number =>
    cases ha : amount.checkSpend with
    | error cause => simp [Store.spend, hn, ha, Loyalty.fails]
    | ok u =>
      simp only [Store.spend, hn, ha]
      rcases s.withdraw_spec number amount user now with
        ⟨b, b', -, -, -, e⟩ | ⟨f, e⟩ | ⟨b, hb, hd, -⟩
      · simp [e]
      · simp [e, Loyalty.fails]
      · have hpurse : s.purse user = b := Store.purse_eq hb
        rcases (hpurse ▸ (h.balanced user).sound).debit ha with ⟨cause, hfails⟩ | ⟨b', hok, -⟩
        · rw [hd] at hfails
          cases hfails
        · rw [hok] at hd
          cases hd

end Conserved

/-! ## Runs -/

theorem conserved_of_run {moves : List Move} {t : System}
    (hrun : (System.start .empty).run? moves = some t) :
    Custody t ∧ (Moderate ((System.start .empty).log moves) →
      Conserved ((System.start .empty).log moves) t.store) := by
  refine (Custody.start Store.numbered_empty).run?_induct
    (P := fun log t => Moderate log → Conserved log t.store) hrun (fun _ => ?_) ?_
  · refine ⟨fun u => List.not_mem_nil, fun user => ?_, fun user => rfl⟩
    refine ⟨Balance.sound_zero, ?_, ?_⟩
    · exact Amount.value_zero
    · exact congrArg₂ (· + ·) Amount.value_zero Amount.value_zero
  · -- Credits are moderate before the move too, as nothing negative is added.
    intro log t m t' hcustody hconserved hstep hmoderate
    have hstore := hcustody.storeStep hstep
    have hbefore := hmoderate.of_append fun user => hstore.nonneg
    exact (hconserved hbefore).storeStep hcustody.numbered hstore hmoderate

theorem nonneg_of_run {moves : List Move} {t t' : System} (ht : Custody t)
    (hrun : t.run? moves = some t') : ∀ a ∈ addedTo (t.log moves) user, 0 ≤ a.value := by
  refine (ht.run?_induct (P := fun log _ => ∀ a ∈ addedTo log user, 0 ≤ a.value) hrun
    (fun a ha => absurd ha List.not_mem_nil) ?_).2
  intro log t m t' hcustody hnonneg hstep a ha
  rw [addedTo_append] at ha
  rcases List.mem_append.1 ha with ha | ha
  · exact hnonneg a ha
  · exact (hcustody.storeStep hstep).nonneg a ha

/-- At every point `t` of a run whose credits are moderate, no credit has
    overflowed and nothing that is spent does, and every user has a balance that
    is exactly what it stands for. -/
theorem conserved {before after : List Move} {t t' : System}
    (hbefore : (System.start .empty).run? before = some t) (hafter : t.run? after = some t')
    (hmoderate : Moderate ((System.start .empty).log (before ++ after))) :
    (∀ u, (u, .error .overflow) ∉ (System.start .empty).log before) ∧
    (∀ raw amount user now, (t.store.spend raw amount user now).1 ≠ .error .overflow) ∧
    ∀ user ∈ t.store.users, ∃ b, t.store.balance? user.id = some b ∧
      b.withdrawn.value = Amount.total (t.store.spentOf user.id) ∧
      b.current.value + b.withdrawn.value = Amount.total (t.store.accrualsOf user.id) := by
  obtain ⟨hcustody, hconserved⟩ := conserved_of_run hbefore
  rw [System.log_append hbefore] at hmoderate
  have h := hconserved (hmoderate.of_append fun user => nonneg_of_run hcustody hafter)
  refine ⟨h.fits, h.spend_fits, fun user huser => ?_⟩
  obtain ⟨b, hb⟩ := Option.isSome_iff_exists.1 (hcustody.numbered.isSome_balance? huser)
  have hpurse : t.store.purse user.id = b := Store.purse_eq hb
  obtain ⟨-, hwithdrawn, hearned⟩ := h.balanced user.id
  rw [hpurse] at hwithdrawn hearned
  exact ⟨b, hb, hwithdrawn, hearned⟩

/-- An order earns `1.500000` points, and `0.5` of them are spent. -/
def earnAndSpend : List Move :=
  [.client (.register 1 [] "ann" "pw"), .client (.submit "18" 1 ⟨0, 0⟩), .begin .standard .start,
    .poll, .poll, .poll, .poll, .worker 0 .take,
    .worker 0 (.answer (.ok ⟨"18", .processed, some ⟨false, 1500000, 6, by decide, by decide⟩⟩)),
    .client (.spend "26" ⟨false, 5, 1, by decide, by decide⟩ 1 ⟨0, 0⟩)]

theorem moderate_earnAndSpend : Moderate ((System.start .empty).log earnAndSpend) := by
  have hlog : (System.start .empty).log earnAndSpend =
      [(.mark ⟨1, 1, "18", .new, none, ⟨0, 0⟩⟩ .processing, .ok ()),
        (.credit ⟨1, 1, "18", .processing, none, ⟨0, 0⟩⟩
          ⟨false, 1500000, 6, by decide, by decide⟩, .ok ())] := rfl
  have hadded : ∀ user, addedTo ((System.start .empty).log earnAndSpend) user =
      if 1 = user then [⟨false, 1500000, 6, by decide, by decide⟩] else [] := by
    intro user
    rw [hlog, ← List.singleton_append, addedTo_append, addedTo_mark, addedTo_credit]
    rfl
  refine ⟨fun user a ha => ?_, fun user => ?_⟩
  · rw [hadded] at ha
    split_ifs at ha
    · rw [List.mem_singleton] at ha
      subst ha
      decide
    · exact absurd ha List.not_mem_nil
  · rw [hadded]
    split_ifs <;> decide

theorem conserved_earnAndSpend : ∃ t : System,
    (System.start .empty).run? earnAndSpend = some t ∧ t.store.spentOf 1 ≠ [] ∧
      ∀ user ∈ t.store.users, ∃ b, t.store.balance? user.id = some b ∧
        b.withdrawn.value = Amount.total (t.store.spentOf user.id) ∧
        b.current.value + b.withdrawn.value = Amount.total (t.store.accrualsOf user.id) := by
  obtain ⟨t, hrun⟩ : ∃ t : System, (System.start .empty).run? earnAndSpend = some t := ⟨_, rfl⟩
  have hafter : t.run? [] = some t := rfl
  have hmoderate : Moderate ((System.start .empty).log (earnAndSpend ++ [])) := by
    rw [List.append_nil]
    exact moderate_earnAndSpend
  refine ⟨t, hrun, ?_, (conserved hrun hafter hmoderate).2.2⟩
  cases hrun
  exact List.cons_ne_nil _ _

end Loyalty.Reconciliation
