import CandleAlerts.Dispatch.Targets
import CandleAlerts.Proofs.GroupSnapshotLaws

/-!
Whom an event is sent to.

The targets come from two sources, the alert's own action and the subscriptions. Webhooks are
listed as they were asked for, the alert's own first, and one that was asked for twice stands there
twice. Users and bots are told apart by their ids: each is listed once, in order, whichever source
it comes from.
-/

namespace CandleAlerts

/-- The webhook of an alert's own action, signed with its own secret or else with the default. -/
def Alert.webhook? (alert : Alert) (defaultSecret : String) : Option WebhookTarget :=
  match alert.action with
  | .webhook url secret =>
      some { subscriptionId := none, url, secret := secret.getD defaultSecret }
  | _ => none

/-- The webhook of a subscription, signed with its own secret or else with the default. -/
def Subscription.webhook? (defaultSecret : String) (subscription : Subscription) :
    Option WebhookTarget :=
  match subscription.recipient with
  | .webhook url secret =>
      some
        { subscriptionId := some subscription.id, url, secret := secret.getD defaultSecret }
  | _ => none

/-- Whether an alert tells a user, by its own action or by a subscription. -/
def Alert.Notifies (alert : Alert) (subscriptions : List Subscription) (userId : String) : Prop :=
  (alert.action = .inApp ∧ userId = alert.ownerId) ∨
    ∃ subscription ∈ subscriptions, subscription.recipient = .inApp userId

/-- Whether an alert tells a bot, by its own action or by a subscription. -/
def Alert.Instructs (alert : Alert) (subscriptions : List Subscription) (botId : String) : Prop :=
  alert.action = .bot botId ∨
    ∃ subscription ∈ subscriptions, subscription.recipient = .bot botId

namespace Targets

/-- Whether the targets are those of an alert and some subscriptions, all of them and no others. -/
structure Cover (alert : Alert) (subscriptions : List Subscription) (defaultSecret : String)
    (targets : Targets) : Prop where
  webhooks : targets.webhooks = (alert.webhook? defaultSecret).toList ++
    subscriptions.filterMap (Subscription.webhook? defaultSecret)
  users : ∀ userId, userId ∈ targets.users ↔ alert.Notifies subscriptions userId
  usersOnce : targets.users.Pairwise (· < ·)
  bots : ∀ botId, botId ∈ targets.bots ↔ alert.Instructs subscriptions botId
  botsOnce : targets.bots.Pairwise (· < ·)

/-! ## Texts in order and each once -/

theorem eraseDups_sublist : (texts : List String) → texts.eraseDups.Sublist texts
  | [] => List.Sublist.refl []
  | first :: rest => by
      rw [List.eraseDups_cons]
      exact (eraseDups_sublist _).trans List.filter_sublist |>.cons_cons first
termination_by texts => texts.length
decreasing_by exact Nat.lt_succ_of_le (List.length_filter_le _ rest)

theorem mem_distinctSorted {texts : List String} {text : String} :
    text ∈ distinctSorted texts ↔ text ∈ texts := by
  rw [distinctSorted, List.mem_eraseDups, List.mem_mergeSort]

theorem pairwise_distinctSorted (texts : List String) :
    (distinctSorted texts).Pairwise (· < ·) := by
  have sorted : (texts.mergeSort (fun first second => first ≤ second)).Pairwise
      (fun first second => decide (first ≤ second) = true) := by
    apply List.pairwise_mergeSort
    · intro first second third less more
      rw [decide_eq_true_eq] at less more ⊢
      exact Std.le_trans less more
    · intro first second
      rw [Bool.or_eq_true, decide_eq_true_eq, decide_eq_true_eq]
      exact Std.le_total
  have both := (sorted.sublist (eraseDups_sublist _)).and (nodup_eraseDups _)
  refine both.imp ?_
  rintro first second ⟨less, different⟩
  exact Std.lt_of_le_of_ne (of_decide_eq_true less) different

/-! ## The targets of both sources -/

theorem foldl_append (targets : List Targets) (first : Targets) :
    targets.foldl append first =
      { webhooks := first.webhooks ++ targets.flatMap webhooks
        users := first.users ++ targets.flatMap users
        bots := first.bots ++ targets.flatMap bots } := by
  induction targets generalizing first with
  | nil => simp
  | cons second rest induction => simp [induction, append]

theorem webhooks_ofAction (alert : Alert) (defaultSecret : String) :
    (ofAction alert defaultSecret).webhooks = (alert.webhook? defaultSecret).toList := by
  unfold ofAction Alert.webhook?
  cases alert.action <;> rfl

theorem webhooks_ofSubscription (defaultSecret : String) (subscription : Subscription) :
    (ofSubscription defaultSecret subscription).webhooks =
      (subscription.webhook? defaultSecret).toList := by
  unfold ofSubscription Subscription.webhook?
  cases subscription.recipient <;> rfl

theorem mem_users_ofAction {alert : Alert} {defaultSecret userId : String} :
    userId ∈ (ofAction alert defaultSecret).users ↔
      alert.action = .inApp ∧ userId = alert.ownerId := by
  unfold ofAction
  cases alert.action <;> simp

theorem mem_users_ofSubscription {defaultSecret userId : String} {subscription : Subscription} :
    userId ∈ (ofSubscription defaultSecret subscription).users ↔
      subscription.recipient = .inApp userId := by
  unfold ofSubscription
  cases subscription.recipient <;> simp [eq_comm]

theorem mem_bots_ofAction {alert : Alert} {defaultSecret botId : String} :
    botId ∈ (ofAction alert defaultSecret).bots ↔ alert.action = .bot botId := by
  unfold ofAction
  cases alert.action <;> simp [eq_comm]

theorem mem_bots_ofSubscription {defaultSecret botId : String} {subscription : Subscription} :
    botId ∈ (ofSubscription defaultSecret subscription).bots ↔
      subscription.recipient = .bot botId := by
  unfold ofSubscription
  cases subscription.recipient <;> simp [eq_comm]

theorem of_cover (alert : Alert) (subscriptions : List Subscription) (defaultSecret : String) :
    (of alert subscriptions defaultSecret).Cover alert subscriptions defaultSecret := by
  unfold of
  rw [foldl_append]
  constructor
  case webhooks =>
    dsimp only
    rw [webhooks_ofAction, List.flatMap_map, List.filterMap_eq_flatMap_toList]
    simp only [webhooks_ofSubscription]
  case users =>
    intro userId
    simp only [mem_distinctSorted, List.mem_append, List.mem_flatMap, List.mem_map,
      exists_exists_and_eq_and, mem_users_ofAction, mem_users_ofSubscription, Alert.Notifies]
  case usersOnce => exact pairwise_distinctSorted _
  case bots =>
    intro botId
    simp only [mem_distinctSorted, List.mem_append, List.mem_flatMap, List.mem_map,
      exists_exists_and_eq_and, mem_bots_ofAction, mem_bots_ofSubscription, Alert.Instructs]
  case botsOnce => exact pairwise_distinctSorted _

/-- An alert and some subscriptions have one selection of targets. -/
theorem Cover.unique {alert : Alert} {subscriptions : List Subscription} {defaultSecret : String}
    {first second : Targets} (left : first.Cover alert subscriptions defaultSecret)
    (right : second.Cover alert subscriptions defaultSecret) : first = second := by
  have same {texts others : List String} (ordered : texts.Pairwise (· < ·))
      (othersOrdered : others.Pairwise (· < ·)) (alike : ∀ text, text ∈ texts ↔ text ∈ others) :
      texts = others := by
    have distinct {texts : List String} (ordered : texts.Pairwise (· < ·)) : texts.Nodup := by
      refine ordered.imp ?_
      rintro text other less rfl
      exact Std.lt_irrefl less
    refine List.Perm.eq_of_pairwise ?_ ordered othersOrdered
      ((List.perm_ext_iff_of_nodup (distinct ordered) (distinct othersOrdered)).2 alike)
    intro text other _ _ less more
    exact absurd (Std.lt_trans less more) Std.lt_irrefl
  rcases first with ⟨webhooks, users, bots⟩
  rcases second with ⟨otherWebhooks, otherUsers, otherBots⟩
  rw [mk.injEq]
  refine ⟨left.webhooks.trans right.webhooks.symm, ?_, ?_⟩
  · exact same left.usersOnce right.usersOnce
      (fun userId => (left.users userId).trans (right.users userId).symm)
  · exact same left.botsOnce right.botsOnce
      (fun botId => (left.bots botId).trans (right.bots botId).symm)

end Targets

end CandleAlerts
