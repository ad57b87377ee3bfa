import AlphaTrade.Library.SlidingWindow
import AlphaTrade.Telegram.Store

/-!
# The rate limits hold on every window

A check charges its key, or refuses and charges nothing. The stamps of a key are pruned as its next
check comes, and only by what is too old for that check. A call that the chat's limit refuses has
charged its user, so the admitted calls of a user are among the charges of its key.

## Main results

* `admitted_within_limits`: no window holds more admitted calls of a user, or in a chat, than its
  limit.
-/
namespace AlphaTrade.Telegram
open Library
open Execution (OrganizationId UserId Instant)

/-- What a check counts for. -/
inductive Slot where
  | enrollment (organizationId : OrganizationId) (userId : UserId)
  | callbackUser (botId telegramUserId : String)
  | callbackChat (botId chatId : String)
  deriving DecidableEq

namespace Slot

def key : Slot → String
  | .enrollment organizationId userId =>
    "enroll:" ++ toString organizationId ++ ":" ++ toString userId
  | .callbackUser botId telegramUserId => "callback-user:" ++ botId ++ ":" ++ telegramUserId
  | .callbackChat botId chatId => "callback-chat:" ++ botId ++ ":" ++ chatId

def limit (policy : RateLimitPolicy) : Slot → Int
  | .enrollment _ _ => policy.enrollmentPerUser
  | .callbackUser _ _ => policy.callbackPerUser
  | .callbackChat _ _ => policy.callbackPerChat

def window (policy : RateLimitPolicy) : Slot → Int
  | .enrollment _ _ => policy.enrollmentWindow
  | .callbackUser _ _ => policy.callbackWindow
  | .callbackChat _ _ => policy.callbackChatWindow

/-- Slots that share a key, as two users of which one has a colon in his name, share its limit. -/
theorem alike_of_key_eq {slot other : Slot} (same : slot.key = other.key)
    (policy : RateLimitPolicy) :
    slot.limit policy = other.limit policy ∧ slot.window policy = other.window policy := by
  have heads := congrArg (fun text => text.toList.take 10) same
  cases slot <;> cases other <;> first
    | exact ⟨rfl, rfl⟩
    | simp [key, String.toList_append, List.take_append] at heads

end Slot

/-! ## Checks -/

variable {policy : RateLimitPolicy} {world : World} {now later : Instant}

/-- A check refuses and writes nothing, or finds room and writes its stamp. -/
theorem check_cases (key : String) (limit window : Int) (scope : String) (now : Instant)
    (world : World) :
    (∃ refusal, check key limit window scope now world = (.error refusal, world)) ∨
      ∃ retained, retained = ((world.events.find key).getD []).filter (now - window < ·) ∧
        (retained.length : Int) < limit ∧ check key limit window scope now world =
          (.ok (), { world with events := world.events.put key (retained ++ [now]) }) := by
  by_cases room : (((world.events.find key).getD []).filter (now - window < ·)).length < limit
  · refine .inr ⟨_, rfl, room, ?_⟩
    simp only [check, Tx.bind_eq, Tx.read, Tx.require, if_pos room]
    rfl
  · refine .inl ⟨⟨"Telegram protocol rate limit exceeded.", .rateLimited, [("scope", scope)]⟩, ?_⟩
    simp only [check, Tx.bind_eq, Tx.read, Tx.require, if_neg room]
    rfl

def charge (charged : String → List Instant) (key : String) (now : Instant) :
    String → List Instant := fun other => charged other ++ if other = key then [now] else []

/-- The stamps of each key are those of its charges that a later check can count, and the charges
are within the limits. -/
structure Windows (policy : RateLimitPolicy) (world : World) (charged : String → List Instant)
    (now : Instant) : Prop where
  kept : ∀ slot : Slot, Kept id (charged slot.key) ((world.events.find slot.key).getD [])
    (now - slot.window policy)
  bounded : ∀ slot : Slot, Bounded id (fun _ => 1) (charged slot.key) (slot.window policy)
    (slot.limit policy).toNat

theorem windows_initial : Windows policy .initial (fun _ => []) now where
  kept _ := kept_nil
  bounded _ := bounded_nil

variable {charged : String → List Instant}

theorem Windows.mono (windows : Windows policy world charged now) (le : now ≤ later) :
    Windows policy world charged later where
  kept slot := (windows.kept slot).mono (Int.sub_le_sub_right le _)
  bounded := windows.bounded

/-- A check that finds room charges its slot. -/
theorem Windows.charge (windows : Windows policy world charged now) (slot : Slot)
    {retained : List Instant}
    (same : retained = ((world.events.find slot.key).getD []).filter
      (now - slot.window policy < ·))
    (room : (retained.length : Int) < slot.limit policy) :
    Windows policy { world with events := world.events.put slot.key (retained ++ [now]) }
      (Telegram.charge charged slot.key now) now := by
  have kept := (windows.kept slot).prune le_rfl
  have fits : load id (fun _ => 1) (charged slot.key) (now - slot.window policy) + 1 ≤
      (slot.limit policy).toNat := by
    rw [(windows.kept slot).load_eq, load_one]
    simp only [id, ← same]
    omega
  constructor
  · intro other
    unfold Telegram.charge
    by_cases key : other.key = slot.key
    · rw [if_pos key, key, (Slot.alike_of_key_eq key policy).2]
      rw [Table.find_put_self, Option.getD_some, same]
      exact kept.push
    · rw [if_neg key, List.append_nil]
      rw [Table.find_put_of_ne _ key]
      exact windows.kept other
  · intro other
    unfold Telegram.charge
    by_cases key : other.key = slot.key
    · rw [if_pos key, key, (Slot.alike_of_key_eq key policy).1,
        (Slot.alike_of_key_eq key policy).2]
      exact (windows.bounded slot).push fits
    · rw [if_neg key, List.append_nil]
      exact windows.bounded other

/-! ## Calls -/

/-- A call of the limiter, with what the clock reads at its checks. -/
inductive RateCall where
  | enrollment (readings : Readings) (organizationId : OrganizationId) (userId : UserId)
  | callback (readings : Readings) (actor : TelegramActorIdentity)

namespace RateCall

def readings : RateCall → Readings
  | .enrollment readings _ _ => readings
  | .callback readings _ => readings

def times (call : RateCall) : List Instant := [call.readings.firstCheck, call.readings.secondCheck]

def perform (policy : RateLimitPolicy) : RateCall → Act Unit
  | .enrollment readings organizationId userId =>
    checkEnrollment policy readings organizationId userId
  | .callback readings actor => checkCallback policy readings actor

def chargedAt (slot : Slot) : RateCall → Option Instant
  | .enrollment readings organizationId userId =>
    if slot = .enrollment organizationId userId then some readings.firstCheck else none
  | .callback readings actor =>
    if slot = .callbackUser actor.botId actor.telegramUserId then some readings.firstCheck
    else if slot = .callbackChat actor.botId actor.chatId then some readings.secondCheck
    else none

end RateCall

def admitted (policy : RateLimitPolicy) : World → List RateCall → List RateCall
  | _, [] => []
  | world, call :: calls =>
    match call.perform policy world with
    | (.ok _, next) => call :: admitted policy next calls
    | (.error _, next) => admitted policy next calls

def Grown (charged grown : String → List Instant) : Prop := ∀ key, (charged key).Sublist (grown key)

theorem grown_charge (charged : String → List Instant) (key : String) (now : Instant) :
    Grown charged (charge charged key now) := fun _ => List.sublist_append_left _ _

theorem charged_sublist (charged : String → List Instant) (key : String) (now : Instant) :
    (charged key ++ [now]).Sublist (charge charged key now key) := by
  simp [charge]

def checkSlot (policy : RateLimitPolicy) (slot : Slot) (scope : String) (now : Instant) :
    Act Unit :=
  check slot.key (slot.limit policy) (slot.window policy) scope now

/-- One check refuses, or charges its slot. -/
theorem Windows.check (windows : Windows policy world charged now) (slot : Slot) (scope : String)
    (le : now ≤ later) :
    (∃ refusal, checkSlot policy slot scope later world = (.error refusal, world)) ∨
      ∃ next, checkSlot policy slot scope later world = (.ok (), next) ∧
        Windows policy next (Telegram.charge charged slot.key later) later := by
  rcases check_cases slot.key (slot.limit policy) (slot.window policy) scope later world with
    refused | ⟨retained, same, room, passed⟩
  · exact .inl refused
  · exact .inr ⟨_, passed, (windows.mono le).charge slot same room⟩

theorem perform_enrollment (readings : Readings) (organizationId : OrganizationId)
    (userId : UserId) :
    (RateCall.enrollment readings organizationId userId).perform policy =
      checkSlot policy (.enrollment organizationId userId) "enrollment" readings.firstCheck := rfl

theorem perform_callback (readings : Readings) (actor : TelegramActorIdentity) :
    (RateCall.callback readings actor).perform policy = (do
      checkSlot policy (.callbackUser actor.botId actor.telegramUserId) "callback_user"
        readings.firstCheck
      checkSlot policy (.callbackChat actor.botId actor.chatId) "callback_chat"
        readings.secondCheck) := rfl

/-- One call: its charges stay within the limits, and what it charges once it is admitted is among
them. -/
theorem Windows.perform (windows : Windows policy world charged now) (call : RateCall)
    (first : now ≤ call.readings.firstCheck)
    (second : call.readings.firstCheck ≤ call.readings.secondCheck) :
    ∃ answer next grown, call.perform policy world = (answer, next) ∧
      Windows policy next grown call.readings.secondCheck ∧ Grown charged grown ∧
      (answer = .ok () → ∀ slot at_, call.chargedAt slot = some at_ →
        (charged slot.key ++ [at_]).Sublist (grown slot.key)) := by
  cases call with
  | enrollment readings organizationId userId =>
    rw [perform_enrollment]
    rcases windows.check (.enrollment organizationId userId) "enrollment" first with
      ⟨refusal, refused⟩ | ⟨next, passed, after⟩
    · exact ⟨_, world, charged, refused, windows.mono (first.trans second),
        fun _ => List.Sublist.refl _, nofun⟩
    · refine ⟨_, next, _, passed, after.mono second, grown_charge _ _ _, fun _ slot at_ own => ?_⟩
      simp only [RateCall.chargedAt, Option.ite_none_right_eq_some, Option.some.injEq] at own
      obtain ⟨rfl, rfl⟩ := own
      exact charged_sublist charged _ _
  | callback readings actor =>
    change now ≤ readings.firstCheck at first
    change readings.firstCheck ≤ readings.secondCheck at second
    rcases windows.check (.callbackUser actor.botId actor.telegramUserId) "callback_user" first with
      ⟨refusal, refused⟩ | ⟨middle, passed, between⟩
    · refine ⟨.error refusal, world, charged, ?_, windows.mono (first.trans second),
        fun _ => List.Sublist.refl _, nofun⟩
      rw [perform_callback, Tx.bind_eq, refused]
    · have grown := grown_charge charged (Slot.callbackUser actor.botId actor.telegramUserId).key
        readings.firstCheck
      rcases between.check (.callbackChat actor.botId actor.chatId) "callback_chat" second with
        ⟨refusal, refused⟩ | ⟨next, admitted, after⟩
      · refine ⟨.error refusal, middle, _, ?_, between.mono second, grown, nofun⟩
        rw [perform_callback, Tx.bind_eq, passed]
        exact refused
      · refine ⟨.ok (), next, _, ?_, after, fun key => (grown key).trans (grown_charge _ _ _ key),
          fun _ slot at_ own => ?_⟩
        · rw [perform_callback, Tx.bind_eq, passed]
          exact admitted
        · simp only [RateCall.chargedAt] at own
          split_ifs at own with user chat
          · obtain rfl := Option.some.inj own
            obtain rfl := user
            exact (charged_sublist charged _ _).trans (grown_charge _ _ _ _)
          · obtain rfl := Option.some.inj own
            obtain rfl := chat
            exact ((grown _).append_right _).trans (charged_sublist _ _ _)

/-- The charges of the admitted calls of a sequence are within the limits. -/
theorem Windows.admitted (windows : Windows policy world charged now) {calls : List RateCall}
    (ordered : (now :: calls.flatMap RateCall.times).Pairwise (· ≤ ·)) (slot : Slot) :
    Bounded id (fun _ => 1)
      (charged slot.key ++ (admitted policy world calls).filterMap (RateCall.chargedAt slot))
      (slot.window policy) (slot.limit policy).toNat := by
  induction calls generalizing world charged now with
  | nil => simpa [Telegram.admitted] using windows.bounded slot
  | cons call calls ih =>
    simp only [List.flatMap_cons, RateCall.times, List.cons_append, List.nil_append,
      List.pairwise_cons, List.mem_cons, forall_eq_or_imp] at ordered
    obtain ⟨⟨first, -, -⟩, ⟨second, -⟩, behind, rest⟩ := ordered
    obtain ⟨answer, next, grown, performed, after, grows, charges⟩ :=
      windows.perform call first second
    have later := ih after (List.pairwise_cons.mpr ⟨behind, rest⟩)
    unfold Telegram.admitted
    rw [performed]
    cases answer with
    | error refusal => exact later.sublist ((grows slot.key).append_right _)
    | ok _ =>
      dsimp only
      cases charged_at : call.chargedAt slot with
      | none =>
        rw [List.filterMap_cons_none charged_at]
        exact later.sublist ((grows slot.key).append_right _)
      | some at_ =>
        rw [List.filterMap_cons_some charged_at, List.append_cons]
        exact later.sublist ((charges rfl slot at_ charged_at).append_right _)

/-- Whatever the order of users and chats, no window holds more admitted calls of a user, or in a
chat, than its limit. A limit below zero admits none. -/
theorem admitted_within_limits (policy : RateLimitPolicy) {calls : List RateCall}
    (ordered : (calls.flatMap RateCall.times).Pairwise (· ≤ ·)) (slot : Slot) (t : Instant) :
    (((admitted policy .initial calls).filterMap (RateCall.chargedAt slot)).filter fun at_ =>
      t - slot.window policy < at_ ∧ at_ ≤ t).length ≤ (slot.limit policy).toNat := by
  cases calls with
  | nil => simp [admitted]
  | cons call calls =>
    have start : (call.readings.firstCheck :: (call :: calls).flatMap RateCall.times).Pairwise
        (· ≤ ·) := by
      refine List.pairwise_cons.mpr ⟨fun at_ mem => ?_, ordered⟩
      rcases List.mem_cons.mp mem with rfl | mem
      · exact le_rfl
      · exact (List.pairwise_cons.mp ordered).1 at_ mem
    have bounded := (@windows_initial policy call.readings.firstCheck).admitted start slot t
    rwa [loadBetween_one] at bounded

def pressedTwice : List RateCall :=
  [.callback ⟨0, 0, 0⟩ ⟨"bot", "user", "chat", .privateChat⟩,
    .callback ⟨1, 1, 1⟩ ⟨"bot", "user", "chat", .privateChat⟩]

theorem pressedTwice_within_limit :
    (((admitted { callbackPerUser := 1 } .initial pressedTwice).filterMap
      (RateCall.chargedAt (.callbackUser "bot" "user"))).filter fun at_ =>
        1 - 60000000 < at_ ∧ at_ ≤ 1).length ≤ 1 :=
  admitted_within_limits { callbackPerUser := 1 } (by decide) (.callbackUser "bot" "user") 1

end AlphaTrade.Telegram
