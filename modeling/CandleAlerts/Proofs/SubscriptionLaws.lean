import CandleAlerts.Proofs.TableLaws
import CandleAlerts.Registry.Sync

/-!
Laws of subscriptions: what each change of the registry and of storage does to the active ones.

Both keep the subscriptions that were given up, but nothing ever looks at these again, so every law
is about the active ones. The registry lists them by condition; storage lists all of them in one.
-/

namespace CandleAlerts

/-! ## Filters of active subscriptions -/

/-- Those that are active after some of them were given up are those that were not. -/
theorem Subscription.filter_active_map_end (ends : Subscription → Bool)
    (subscriptions : List Subscription)
    (inactive : ∀ subscription, ends subscription = true → subscription.active = true) :
    (subscriptions.map (fun subscription =>
      if ends subscription then { subscription with active := false } else subscription)).filter
        Subscription.active =
      (subscriptions.filter Subscription.active).filter
        (fun subscription => !ends subscription) := by
  induction subscriptions with
  | nil => rfl
  | cons subscription rest induction =>
      rw [List.map_cons, List.filter_cons, List.filter_cons, induction]
      cases ended : ends subscription with
      | true => simp [inactive subscription ended, ended]
      | false =>
          cases active : subscription.active with
          | true => simp [active, ended]
          | false => simp [active]

namespace Registry

/-! ## Changes of the registry -/

theorem subscriptionsTo_subscribe (registry : Registry) (subscription : Subscription)
    (conditionId : String) :
    (registry.subscribe subscription).subscriptionsTo conditionId =
      if subscription.conditionId = conditionId then
        (registry.subscriptionsTo conditionId).filter
          (fun other => !subscription.replaces other) ++ [subscription]
      else registry.subscriptionsTo conditionId := by
  simp only [subscribe, subscriptionsTo, Table.getD]
  rw [Table.get?_insert]
  by_cases same : subscription.conditionId = conditionId
  · rw [if_pos same, if_pos same, same]
    rfl
  · rw [if_neg same, if_neg same]

/-- A new subscription takes the place of those it replaces, at the end. -/
theorem activeSubscriptions_subscribe (registry : Registry) {subscription : Subscription}
    (active : subscription.active = true) (conditionId : String) :
    (registry.subscribe subscription).activeSubscriptions conditionId =
      if subscription.conditionId = conditionId then
        (registry.activeSubscriptions conditionId).filter
          (fun other => !subscription.replaces other) ++ [subscription]
      else registry.activeSubscriptions conditionId := by
  simp only [activeSubscriptions]
  rw [subscriptionsTo_subscribe]
  split
  · rw [List.filter_append, List.filter_cons_of_pos active, List.filter_nil]
    simp only [List.filter_filter, Bool.and_comm]
  · rfl

theorem subscriptionsTo_unsubscribe (registry : Registry)
    (subscriberId conditionId other : String) :
    (registry.unsubscribe subscriberId conditionId).2.subscriptionsTo other =
      if other = conditionId then
        (registry.subscriptionsTo other).map (fun subscription =>
          if subscription.active && subscription.subscriberId == subscriberId then
            { subscription with active := false }
          else subscription)
      else registry.subscriptionsTo other := by
  simp only [unsubscribe, subscriptionsTo, Table.getD, Table.modify]
  rw [Table.get?_mapValues]
  cases registry.subscriptions.get? other with
  | none => simp
  | some list =>
      by_cases same : other = conditionId
      · simp [same]
      · simp [same]

/-- A subscriber that gives up a condition has no active subscription to it left. -/
theorem activeSubscriptions_unsubscribe (registry : Registry)
    (subscriberId conditionId other : String) :
    (registry.unsubscribe subscriberId conditionId).2.activeSubscriptions other =
      (registry.activeSubscriptions other).filter (fun subscription =>
        !(subscription.subscriberId == subscriberId && other == conditionId)) := by
  simp only [activeSubscriptions]
  rw [subscriptionsTo_unsubscribe]
  by_cases same : other = conditionId
  · rw [if_pos same]
    rw [Subscription.filter_active_map_end (fun subscription =>
      subscription.active && subscription.subscriberId == subscriberId)]
    · apply List.filter_congr
      intro subscription member
      have active := (List.mem_filter.1 member).2
      simp [active, same]
    · intro subscription ends
      exact (Bool.and_eq_true_iff.1 ends).1
  · rw [if_neg same]
    symm
    rw [List.filter_eq_self]
    intro subscription member
    simp [same]

theorem subscriptionsTo_replaceSubscriptions (registry : Registry)
    (subscriptions : List Subscription) (conditionId : String) :
    (registry.replaceSubscriptions subscriptions).subscriptionsTo conditionId =
      subscriptions.filter (fun subscription => subscription.conditionId == conditionId) := by
  have folded (table : Table (List Subscription)) :
      (subscriptions.foldl (fun table subscription =>
        table.insert subscription.conditionId
          (table.getD subscription.conditionId [] ++ [subscription])) table).getD conditionId [] =
        table.getD conditionId [] ++
          subscriptions.filter (fun subscription => subscription.conditionId == conditionId) := by
    induction subscriptions generalizing table with
    | nil => rw [List.foldl_nil, List.filter_nil, List.append_nil]
    | cons subscription rest induction =>
        rw [List.foldl_cons, induction, List.filter_cons]
        simp only [Table.getD]
        rw [Table.get?_insert]
        by_cases same : subscription.conditionId = conditionId
        · simp [same]
        · simp [same]
  exact folded Table.empty

/-- A whole new list of subscriptions forgets everything before it. -/
theorem activeSubscriptions_replaceSubscriptions (registry : Registry)
    (subscriptions : List Subscription) (conditionId : String) :
    (registry.replaceSubscriptions subscriptions).activeSubscriptions conditionId =
      (subscriptions.filter Subscription.active).filter
        (fun subscription => subscription.conditionId == conditionId) := by
  simp only [activeSubscriptions]
  rw [subscriptionsTo_replaceSubscriptions]
  simp only [List.filter_filter, Bool.and_comm]

/-- A synchronization makes those active that are stored as active. -/
theorem activeSubscriptions_sync (registry : Registry) (saved : Option SavedStates)
    (mode : FireMode) (store : Store) (conditionId : String) :
    (registry.sync saved mode store).2.2.activeSubscriptions conditionId =
      store.activeSubscriptions.filter
        (fun subscription => subscription.conditionId == conditionId) := by
  have replaced (synced : Registry) :
      (synced.replaceSubscriptions store.activeSubscriptions).activeSubscriptions conditionId =
        store.activeSubscriptions.filter
          (fun subscription => subscription.conditionId == conditionId) := by
    rw [activeSubscriptions_replaceSubscriptions]
    simp [Store.activeSubscriptions]
  exact replaced _

end Registry

/-! ## Changes of storage -/

namespace Store

/-- A subscription of a new id is stored beside all others. -/
theorem subscriptions_saveSubscription (store : Store) {subscription : Subscription}
    (fresh : ∀ other ∈ store.subscriptions, other.id ≠ subscription.id) :
    (store.saveSubscription subscription).subscriptions =
      store.subscriptions ++ [subscription] := by
  simp only [saveSubscription]
  rw [List.filter_eq_self.2]
  intro other member
  simpa using fresh other member

theorem activeSubscriptions_saveSubscription (store : Store) {subscription : Subscription}
    (fresh : ∀ other ∈ store.subscriptions, other.id ≠ subscription.id)
    (active : subscription.active = true) :
    (store.saveSubscription subscription).activeSubscriptions =
      store.activeSubscriptions ++ [subscription] := by
  simp only [activeSubscriptions]
  rw [store.subscriptions_saveSubscription fresh, List.filter_append,
    List.filter_cons_of_pos active, List.filter_nil]

/-- A subscriber that gives up a condition has no active subscription to it left. -/
theorem activeSubscriptions_deactivateSubscription (store : Store)
    (subscriberId conditionId : String) :
    (store.deactivateSubscription subscriberId conditionId).2.activeSubscriptions =
      store.activeSubscriptions.filter (fun subscription =>
        !(subscription.subscriberId == subscriberId &&
          subscription.conditionId == conditionId)) := by
  simp only [activeSubscriptions, deactivateSubscription]
  rw [Subscription.filter_active_map_end (fun subscription =>
    subscription.active && subscription.subscriberId == subscriberId &&
      subscription.conditionId == conditionId)]
  · apply List.filter_congr
    intro subscription member
    have active := (List.mem_filter.1 member).2
    simp [active]
  · intro subscription ends
    exact (Bool.and_eq_true_iff.1 (Bool.and_eq_true_iff.1 ends).1).1

/-- Giving up subscriptions leaves their ids stored. -/
theorem map_id_deactivateSubscription (store : Store) (subscriberId conditionId : String) :
    (store.deactivateSubscription subscriberId conditionId).2.subscriptions.map Subscription.id =
      store.subscriptions.map Subscription.id := by
  simp only [deactivateSubscription]
  rw [List.map_map]
  apply List.map_congr_left
  intro subscription member
  simp only [Function.comp_apply]
  split <;> rfl

end Store

end CandleAlerts
