import Conveyor.Shutdown
import Mathlib.Algebra.Ring.Nat
import Mathlib.Data.List.Induction

/-!
# Requests to shut down

A history is a list of actions on a coordinator, its tokens and its receivers, each of them possible when it is taken
(`Valid`). `Origin` traces a token back to the coordinator or to the token that began with a flag of its own, and
`Cancelled` says that the tokens of an origin were cancelled. Every origin has one flag (`Marks`), and no two origins
have the same; each action keeps this (`linked_concat`), so that a token shows what happened to its origin. A receiver's
position goes up by what its attempts account for (`tracked_receive`), and a request puts one more signal before it
(`tracked_other`), so that what is still before it is what it is due and was not accounted for.

* `requests_accounted`: which tokens are cancelled, and what each receiver was given, told and still has before it.
-/

namespace Conveyor.Shutdown

open Broadcast

/-! ## Histories -/

/-- What may be done to a coordinator, its tokens and its receivers. -/
inductive Action where
  | subscribe
  | trigger
  | token
  | newToken
  | clone (token : Nat)
  | cancel (token : Nat)
  | receive (receiver : Nat)
  | dropReceiver (receiver : Nat)
  /-- The coordinator goes away. -/
  | drop
deriving DecidableEq

/-- Whether an action makes a token. -/
def Action.isMaking : Action → Bool
  | .token | .newToken | .clone _ => true
  | _ => false

/-- The state after an action. -/
def act (s : Shutdown) : Action → Shutdown
  | .subscribe => s.subscribe.1
  | .trigger => s.trigger
  | .token => s.token.1
  | .newToken => s.newToken.1
  | .clone n => (s.cloneToken n).1
  | .cancel n => s.cancel n
  | .receive n => (s.receive n).1
  | .dropReceiver n => s.dropReceiver n
  | .drop => s.drop

/-- The state after a history. -/
def run (as : List Action) : Shutdown := as.foldl act {}

/-- How many tokens were made; they are numbered in this order. -/
def tokensMade (as : List Action) : Nat := as.countP Action.isMaking

/-- How many receivers were made; the first comes with the coordinator. -/
def receiversMade (as : List Action) : Nat := as.count .subscribe + 1

/-- A receiver that was made and not dropped. -/
def Listening (as : List Action) (n : Nat) : Prop := n < receiversMade as ∧ .dropReceiver n ∉ as

instance (as : List Action) (n : Nat) : Decidable (Listening as n) := inferInstanceAs (Decidable (_ ∧ _))

/-- Whether an action can be taken after a history: some need the coordinator, others a token or a receiver. -/
def Possible (as : List Action) : Action → Prop
  | .subscribe | .trigger | .token | .drop => .drop ∉ as
  | .newToken => True
  | .clone n | .cancel n => n < tokensMade as
  | .receive n | .dropReceiver n => Listening as n

instance (as : List Action) : ∀ a, Decidable (Possible as a)
  | .subscribe | .trigger | .token | .drop => inferInstanceAs (Decidable (.drop ∉ as))
  | .newToken => inferInstanceAs (Decidable True)
  | .clone n | .cancel n => inferInstanceAs (Decidable (n < tokensMade as))
  | .receive n | .dropReceiver n => inferInstanceAs (Decidable (Listening as n))

/-- Each action of a history was possible when it was taken. -/
def Valid (as : List Action) : Prop := ∀ i (h : i < as.length), Possible (as.take i) as[i]

instance (as : List Action) : Decidable (Valid as) :=
  inferInstanceAs (Decidable (∀ i (h : i < as.length), Possible (as.take i) as[i]))

/-! ## What is known from a history -/

/-- Where a token comes from: `none` is the coordinator, and `some k` is token `k`, which was made with a flag of its
own. -/
inductive Origin : List Action → Nat → Option Nat → Prop where
  | token (as : List Action) : Origin (as ++ [.token]) (tokensMade as) none
  | newToken (as : List Action) : Origin (as ++ [.newToken]) (tokensMade as) (some (tokensMade as))
  | clone {as : List Action} {n : Nat} {o : Option Nat} : Origin as n o → Origin (as ++ [.clone n]) (tokensMade as) o
  | later {as : List Action} {n : Nat} {o : Option Nat} (a : Action) : Origin as n o → Origin (as ++ [a]) n o

/-- Some token of an origin was cancelled, or the origin is the coordinator, and a shutdown was requested. -/
inductive Cancelled : List Action → Option Nat → Prop where
  | cancel {as : List Action} {n : Nat} {o : Option Nat} : Origin as n o → Cancelled (as ++ [.cancel n]) o
  | trigger (as : List Action) : Cancelled (as ++ [.trigger]) none
  | later {as : List Action} {o : Option Nat} (a : Action) : Cancelled as o → Cancelled (as ++ [a]) o

/-- How many shutdowns were requested since the `n`-th subscription. -/
def due : Nat → List Action → Nat
  | 0, as => as.count .trigger
  | _ + 1, [] => 0
  | n + 1, .subscribe :: as => due n as
  | n + 1, _ :: as => due (n + 1) as

/-- What an action yields to receiver `n`. -/
def yield (s : Shutdown) (n : Nat) : Action → Option Reception
  | .receive m => if m = n then (s.receive n).2 else none
  | _ => none

/-- What the attempts of receiver `n` yielded in the course of a history. -/
def receptions (n : Nat) : Shutdown → List Action → List Reception
  | _, [] => []
  | s, a :: as => (s.yield n a).toList ++ receptions n (s.act a) as

/-- How many signals receiver `n` was given. -/
def given (n : Nat) (as : List Action) : Nat := (receptions n {} as).count .signal

/-- How many signals an attempt reports as missed. -/
def reported : Reception → Nat
  | .lagged k => k
  | _ => 0

/-- How many signals receiver `n` was told it missed. -/
def missed (n : Nat) (as : List Action) : Nat := ((receptions n {} as).map reported).sum

/-- How many signals are still before receiver `n`, to be read or skipped. -/
def ahead (s : Shutdown) (n : Nat) : Nat :=
  match s.receivers[n]? with
  | some (some c) => s.sent - c.position
  | _ => 0

section Histories

variable {as bs : List Action} {a : Action} {n : Nat}

theorem run_concat : run (as ++ [a]) = (run as).act a := List.foldl_append ..

theorem tokensMade_concat : tokensMade (as ++ [a]) = tokensMade as + if a.isMaking = true then 1 else 0 := by
  simp [tokensMade, List.countP_append, List.countP_cons]

theorem receiversMade_concat : receiversMade (as ++ [a]) = receiversMade as + if a = .subscribe then 1 else 0 := by
  rw [receiversMade, receiversMade, List.count_append, List.count_singleton, Nat.add_right_comm]
  simp

theorem Valid.of_append (h : Valid (as ++ bs)) : Valid as := by
  intro i hi
  have hall := h i (by rw [List.length_append]; omega)
  rwa [List.take_append_of_le_length (Nat.le_of_lt hi), List.getElem_append_left hi] at hall

theorem valid_concat : Valid (as ++ [a]) ↔ Valid as ∧ Possible as a := by
  constructor
  · intro h
    have hlast := h as.length (by simp)
    exact ⟨h.of_append, by simpa using hlast⟩
  · rintro ⟨hvalid, hlast⟩ i hi
    rw [List.length_append, List.length_singleton] at hi
    by_cases hlt : i < as.length
    · rw [List.take_append_of_le_length (Nat.le_of_lt hlt), List.getElem_append_left hlt]
      exact hvalid i hlt
    · obtain rfl : i = as.length := by omega
      simpa using hlast

/-- What holds at first and is kept by each possible action holds after every history. -/
theorem Valid.induction {P : List Action → Prop} (h : Valid as) (start : P [])
    (step : ∀ {as a}, Valid as → Possible as a → P as → P (as ++ [a])) : P as := by
  induction as using List.reverseRecOn with
  | nil => exact start
  | append_singleton as a ih =>
    obtain ⟨hvalid, hlast⟩ := valid_concat.1 h
    exact step hvalid hlast (ih hvalid)

end Histories

/-! ## What an action does -/

section Effects

variable {s : Shutdown} {as : List Action} {a : Action} {n f : Nat}

theorem receive_of_listening {c : Cursor} (h : s.receivers[n]? = some (some c)) :
    s.receive n = ({ s with receivers := s.receivers.set n (some (c.receive s.sent s.live).1) },
      some (c.receive s.sent s.live).2) := by
  rw [receive, h]

theorem receive_of_none (h : s.receivers[n]? = none) : s.receive n = (s, none) := by
  rw [receive, h]

/-- An attempt to receive changes at most the position of its receiver. -/
theorem receive_effect (s : Shutdown) (n : Nat) :
    ∃ r, (s.receive n).1 = { s with receivers := r } ∧ r.length = s.receivers.length ∧
      ∀ m, m ≠ n → r[m]? = s.receivers[m]? := by
  unfold receive
  split
  case h_1 c _ =>
    refine ⟨_, rfl, List.length_set, ?_⟩
    intro m hm
    exact List.getElem?_set_ne hm.symm
  case h_2 => exact ⟨s.receivers, rfl, rfl, fun _ _ => rfl⟩

/-- The flag that an action gives to the token that it makes. -/
def flagOf? (s : Shutdown) : Action → Option Nat
  | .token => some 0
  | .newToken => some s.flags.length
  | .clone n => some (s.tokens[n]?.getD s.flags.length)
  | _ => none

theorem tokens_act : (s.act a).tokens = s.tokens ++ (s.flagOf? a).toList := by
  cases a with
  | cancel n =>
    simp only [act, cancel]
    split <;> simp [flagOf?]
  | receive n =>
    obtain ⟨r, hr, -⟩ := receive_effect s n
    simp [act, hr, flagOf?]
  | _ => simp [act, subscribe, trigger, token, newToken, cloneToken, dropReceiver, drop, flagOf?]

/-- The flag that an action raises. -/
def raises? (s : Shutdown) : Action → Option Nat
  | .trigger => some 0
  | .cancel n => s.tokens[n]?
  | _ => none

/-- An action raises a flag, or makes a new one. -/
theorem getElem?_flags_act (h : f < s.flags.length) :
    (s.act a).flags[f]? = some true ↔ s.flags[f]? = some true ∨ s.raises? a = some f := by
  have hset : ∀ g, (s.flags.set g true)[f]? = some true ↔ s.flags[f]? = some true ∨ g = f := by
    intro g
    rw [List.getElem?_set]
    by_cases hg : g = f <;> simp [hg, h]
  cases a with
  | trigger => simpa [act, trigger, raises?, eq_comm] using hset 0
  | cancel n =>
    simp only [act, cancel, raises?]
    split
    case h_1 g hg => simpa [hg] using hset g
    case h_2 hg => simp [hg]
  | receive n =>
    obtain ⟨r, hr, -⟩ := receive_effect s n
    simp [act, hr, raises?]
  | newToken => simp [act, newToken, raises?, List.getElem?_append_left h]
  | _ => simp [act, subscribe, token, cloneToken, dropReceiver, drop, raises?]

theorem flags_newToken : (s.act .newToken).flags[s.flags.length]? = some false := by
  simp [act, newToken]

/-- What an action adds to what is counted. -/
structure Adds (s : Shutdown) (a : Action) (t : Shutdown) : Prop where
  tokens : t.tokens.length = s.tokens.length + if a.isMaking = true then 1 else 0
  flags : t.flags.length = s.flags.length + if a = .newToken then 1 else 0
  receivers : t.receivers.length = s.receivers.length + if a = .subscribe then 1 else 0
  sent : t.sent = s.sent + if a = .trigger then 1 else 0
  live : t.live = true ↔ s.live = true ∧ a ≠ .drop

theorem adds_act : Adds s a (s.act a) := by
  cases a with
  | cancel n =>
    simp only [act, cancel]
    split <;> constructor <;> simp [Action.isMaking]
  | receive n =>
    obtain ⟨r, hr, hlength, -⟩ := receive_effect s n
    rw [act, hr]
    constructor <;> simp [Action.isMaking, hlength]
  | _ =>
    constructor <;>
      simp [act, subscribe, trigger, token, newToken, cloneToken, dropReceiver, drop, Action.isMaking]

/-- A receiver stays as it is until something is done to it. -/
theorem receivers_act (hn : n < s.receivers.length) (hreceive : a ≠ .receive n) (hdrop : a ≠ .dropReceiver n) :
    (s.act a).receivers[n]? = s.receivers[n]? := by
  cases a with
  | subscribe => simp [act, subscribe, List.getElem?_append_left hn]
  | cancel m =>
    simp only [act, cancel]
    split <;> rfl
  | receive m =>
    obtain ⟨r, hr, -, hother⟩ := receive_effect s m
    rw [act, hr]
    exact hother n fun h => hreceive (h ▸ rfl)
  | dropReceiver m =>
    have hne : m ≠ n := fun h => hdrop (h ▸ rfl)
    simp [act, dropReceiver, List.getElem?_set_ne hne]
  | _ => rfl

theorem length_tokens (as : List Action) : (run as).tokens.length = tokensMade as := by
  induction as using List.reverseRecOn with
  | nil => rfl
  | append_singleton as a ih =>
    rw [run_concat, adds_act.tokens, ih, tokensMade_concat]

theorem length_receivers (as : List Action) : (run as).receivers.length = receiversMade as := by
  induction as using List.reverseRecOn with
  | nil => rfl
  | append_singleton as a ih => rw [run_concat, adds_act.receivers, ih, receiversMade_concat]

theorem live_iff (as : List Action) : (run as).live = true ↔ .drop ∉ as := by
  induction as using List.reverseRecOn with
  | nil => simp [run]
  | append_singleton as a ih =>
    rw [run_concat, adds_act.live, ih, List.mem_append, List.mem_singleton, not_or, ne_comm]

end Effects

/-! ## Tokens -/

section Origins

variable {as bs : List Action} {a : Action} {n : Nat} {o o' : Option Nat}

/-- The origin that an action gives to the token that it makes. -/
def Action.Gives (as : List Action) (o : Option Nat) : Action → Prop
  | .token => o = none
  | .newToken => o = some (tokensMade as)
  | .clone n => Origin as n o
  | _ => False

theorem origin_concat : Origin (as ++ [a]) n o ↔ Origin as n o ∨ n = tokensMade as ∧ a.Gives as o := by
  constructor
  · intro h
    generalize hbs : as ++ [a] = bs at h
    cases h with
    | token as' =>
      obtain ⟨rfl, rfl⟩ := List.append_singleton_inj.1 hbs
      exact .inr ⟨rfl, rfl⟩
    | newToken as' =>
      obtain ⟨rfl, rfl⟩ := List.append_singleton_inj.1 hbs
      exact .inr ⟨rfl, rfl⟩
    | clone hm =>
      obtain ⟨rfl, rfl⟩ := List.append_singleton_inj.1 hbs
      exact .inr ⟨rfl, hm⟩
    | later b hold =>
      obtain ⟨rfl, rfl⟩ := List.append_singleton_inj.1 hbs
      exact .inl hold
  · rintro (hold | ⟨rfl, hnew⟩)
    · exact .later a hold
    · cases a with
      | token => exact hnew ▸ .token as
      | newToken => exact hnew ▸ .newToken as
      | clone m => exact .clone hnew
      | _ => exact hnew.elim

/-- A token is made before it has an origin, and so is the one that it comes from. -/
theorem Origin.lt (h : Origin as n o) : n < tokensMade as ∧ ∀ k, o = some k → k < tokensMade as := by
  induction h with
  | token as => simp [tokensMade_concat, Action.isMaking]
  | newToken as => simp [tokensMade_concat, Action.isMaking]
  | clone _ ih =>
    rw [tokensMade_concat]
    exact ⟨Nat.lt_succ_self _, fun k hk => Nat.lt_succ_of_lt (ih.2 k hk)⟩
  | later a _ ih =>
    rw [tokensMade_concat]
    exact ⟨Nat.lt_add_right _ ih.1, fun k hk => Nat.lt_add_right _ (ih.2 k hk)⟩

theorem Origin.append (h : Origin as n o) (bs : List Action) : Origin (as ++ bs) n o := by
  induction bs using List.reverseRecOn with
  | nil => rwa [List.append_nil]
  | append_singleton bs b ih =>
    rw [← List.append_assoc]
    exact .later b ih

/-- What is cancelled by an action. -/
def Action.Cancels (as : List Action) (o : Option Nat) : Action → Prop
  | .cancel n => Origin as n o
  | .trigger => o = none
  | _ => False

theorem cancelled_concat : Cancelled (as ++ [a]) o ↔ Cancelled as o ∨ a.Cancels as o := by
  constructor
  · intro h
    generalize hbs : as ++ [a] = bs at h
    cases h with
    | cancel hn =>
      obtain ⟨rfl, rfl⟩ := List.append_singleton_inj.1 hbs
      exact .inr hn
    | trigger as' =>
      obtain ⟨rfl, rfl⟩ := List.append_singleton_inj.1 hbs
      exact .inr rfl
    | later b hold =>
      obtain ⟨rfl, rfl⟩ := List.append_singleton_inj.1 hbs
      exact .inl hold
  · rintro (hold | hnew)
    · exact .later a hold
    · cases a with
      | cancel n => exact .cancel hnew
      | trigger => exact hnew ▸ .trigger as
      | _ => exact hnew.elim

theorem Cancelled.append (h : Cancelled as o) (bs : List Action) : Cancelled (as ++ bs) o := by
  induction bs using List.reverseRecOn with
  | nil => rwa [List.append_nil]
  | append_singleton bs b ih =>
    rw [← List.append_assoc]
    exact .later b ih

/-- Only the coordinator and tokens that were made are origins. -/
theorem Cancelled.known (h : Cancelled as o) : o = none ∨ ∃ n, Origin as n o := by
  induction h with
  | cancel hn => exact .inr ⟨_, .later _ hn⟩
  | trigger as => exact .inl rfl
  | later a _ ih => exact ih.imp_right fun ⟨n, hn⟩ => ⟨n, .later a hn⟩

/-- Flag `f` is the one that the tokens of an origin share. -/
def Marks (as : List Action) (f : Nat) (o : Option Nat) : Prop :=
  f = 0 ∧ o = none ∨ ∃ n, Origin as n o ∧ (run as).tokens[n]? = some f

theorem Marks.lt {f : Nat} (h : Marks as f o) : ∀ k, o = some k → k < tokensMade as := by
  rintro k rfl
  rcases h with ⟨-, hnone⟩ | ⟨n, hn, -⟩
  · cases hnone
  · exact hn.lt.2 k rfl

/-- Only a token of its own brings a new flag. -/
theorem marks_concat {f : Nat} (ha : Possible as a) (h : Marks (as ++ [a]) f o) :
    Marks as f o ∨ a = .newToken ∧ f = (run as).flags.length ∧ o = some (tokensMade as) := by
  rcases h with hzero | ⟨n, hn, hf⟩
  · exact .inl (.inl hzero)
  · rw [run_concat, tokens_act] at hf
    rcases origin_concat.1 hn with hold | ⟨rfl, hnew⟩
    · have hlt : n < (run as).tokens.length := by
        rw [length_tokens]
        exact hold.lt.1
      rw [List.getElem?_append_left hlt] at hf
      exact .inl (.inr ⟨n, hold, hf⟩)
    · rw [List.getElem?_append_right (Nat.le_of_eq (length_tokens as)), length_tokens, Nat.sub_self] at hf
      cases a with
      | token => exact .inl (.inl ⟨(Option.some.inj hf).symm, hnew⟩)
      | newToken => exact .inr ⟨rfl, (Option.some.inj hf).symm, hnew⟩
      | clone m =>
        have hm : m < (run as).tokens.length := by
          rw [length_tokens]
          exact ha
        have hget := List.getElem?_eq_getElem hm
        simp only [flagOf?, hget, Option.getD_some, Option.toList_some, List.getElem?_cons_zero] at hf
        exact .inl (.inr ⟨m, hnew, hf ▸ hget⟩)
      | _ => exact hnew.elim

end Origins

/-! ## Flags -/

/-- The tokens have origins, each origin has its flag, and the flag is raised when the origin is cancelled. -/
structure Linked (as : List Action) : Prop where
  traced : ∀ n < tokensMade as, ∃ o, Origin as n o
  bound : ∀ {f o}, Marks as f o → f < (run as).flags.length
  unique : ∀ {f g o o'}, Marks as f o → Marks as g o' → (f = g ↔ o = o')
  raised : ∀ {f o}, Marks as f o → ((run as).flags[f]? = some true ↔ Cancelled as o)

section Linked

variable {as : List Action} {a : Action} {n f : Nat} {o : Option Nat}

theorem marks_nil (h : Marks [] f o) : f = 0 ∧ o = none := by
  rcases h with hzero | ⟨n, -, hn⟩
  · exact hzero
  · cases hn

theorem not_cancelled_nil : ¬ Cancelled [] o := by
  intro h
  generalize hnil : ([] : List Action) = as at h
  cases h <;> simp at hnil

theorem linked_nil : Linked [] where
  traced n hn := nomatch hn
  bound h := by
    obtain ⟨rfl, -⟩ := marks_nil h
    exact Nat.one_pos
  unique h h' := by
    obtain ⟨rfl, rfl⟩ := marks_nil h
    obtain ⟨rfl, rfl⟩ := marks_nil h'
    simp
  raised h := by
    obtain ⟨rfl, rfl⟩ := marks_nil h
    exact iff_of_false (by simp [run]) not_cancelled_nil

/-- A token that was made has a flag, and this is the one of its origin. -/
theorem marks_of_origin (h : Origin as n o) : ∃ f, (run as).tokens[n]? = some f ∧ Marks as f o := by
  have hlt : n < (run as).tokens.length := by
    rw [length_tokens]
    exact h.lt.1
  exact ⟨_, List.getElem?_eq_getElem hlt, .inr ⟨n, h, List.getElem?_eq_getElem hlt⟩⟩

theorem Linked.origin_unique {o' : Option Nat} (hl : Linked as) (h : Origin as n o) (h' : Origin as n o') : o = o' := by
  obtain ⟨f, hf, hmarks⟩ := marks_of_origin h
  obtain ⟨g, hg, hmarks'⟩ := marks_of_origin h'
  rw [hf] at hg
  exact (hl.unique hmarks hmarks').1 (Option.some.inj hg)

/-- The flag that an action raises is that of the origin that it cancels. -/
theorem Linked.raises (hl : Linked as) (ha : Possible as a) (h : Marks as f o) :
    (run as).raises? a = some f ↔ a.Cancels as o := by
  cases a with
  | trigger =>
    have hzero : Marks as 0 none := .inl ⟨rfl, rfl⟩
    rw [raises?, Option.some.injEq, hl.unique hzero h, eq_comm]
    rfl
  | cancel n =>
    obtain ⟨o', ho'⟩ := hl.traced n ha
    obtain ⟨g, hg, hmarks⟩ := marks_of_origin ho'
    simp only [raises?, hg, Option.some.injEq, Action.Cancels, hl.unique hmarks h]
    constructor
    · rintro rfl
      exact ho'
    · exact fun ho => hl.origin_unique ho' ho
  | _ => simp [raises?, Action.Cancels]

theorem linked_concat (hl : Linked as) (ha : Possible as a) : Linked (as ++ [a]) where
  traced n hn := by
    rw [tokensMade_concat] at hn
    by_cases hlt : n < tokensMade as
    · obtain ⟨o, ho⟩ := hl.traced n hlt
      exact ⟨o, .later a ho⟩
    · obtain ⟨hmaking, rfl⟩ : a.isMaking = true ∧ n = tokensMade as := by
        by_cases hmaking : a.isMaking = true
        · rw [if_pos hmaking] at hn
          exact ⟨hmaking, by omega⟩
        · rw [if_neg hmaking] at hn
          exact absurd hn hlt
      cases a with
      | token => exact ⟨none, .token as⟩
      | newToken => exact ⟨some (tokensMade as), .newToken as⟩
      | clone m =>
        obtain ⟨o, ho⟩ := hl.traced m ha
        exact ⟨o, .clone ho⟩
      | _ => cases hmaking
  bound h := by
    rw [run_concat, adds_act.flags]
    rcases marks_concat ha h with hold | ⟨rfl, rfl, -⟩
    · exact Nat.lt_add_right _ (hl.bound hold)
    · exact Nat.lt_succ_self _
  unique {f g o o'} h h' := by
    -- The flag that a token brings is beyond all flags before, and so is its number.
    have hnew : ∀ {f o}, Marks as f o → f ≠ (run as).flags.length ∧ o ≠ some (tokensMade as) :=
      fun h => ⟨Nat.ne_of_lt (hl.bound h), fun ho => Nat.lt_irrefl _ (h.lt _ ho)⟩
    rcases marks_concat ha h with hold | ⟨-, rfl, rfl⟩
    · rcases marks_concat ha h' with hold' | ⟨-, rfl, rfl⟩
      · exact hl.unique hold hold'
      · exact iff_of_false (hnew hold).1 (hnew hold).2
    · rcases marks_concat ha h' with hold' | ⟨-, rfl, rfl⟩
      · exact iff_of_false (hnew hold').1.symm (hnew hold').2.symm
      · exact iff_of_true rfl rfl
  raised {f o} h := by
    rw [run_concat, cancelled_concat]
    rcases marks_concat ha h with hold | ⟨rfl, rfl, rfl⟩
    · rw [getElem?_flags_act (hl.bound hold), hl.raised hold, hl.raises ha hold]
    · rw [flags_newToken]
      refine iff_of_false (by simp) ?_
      rintro (hc | hc)
      · rcases hc.known with hnone | ⟨n, hn⟩
        · cases hnone
        · exact Nat.lt_irrefl _ (hn.lt.2 _ rfl)
      · exact hc

theorem Valid.linked (h : Valid as) : Linked as :=
  h.induction linked_nil fun _ ha hl => linked_concat hl ha

theorem getD_eq_true {b : Option Bool} : b.getD false = true ↔ b = some true := by
  cases b <;> simp

theorem Linked.isCancelled_iff (hl : Linked as) (h : Origin as n o) :
    (run as).isCancelled n = true ↔ Cancelled as o := by
  obtain ⟨f, hf, hmarks⟩ := marks_of_origin h
  rw [isCancelled, hf, ← hl.raised hmarks]
  exact getD_eq_true

theorem Linked.requested_iff (hl : Linked as) : (run as).requested = true ↔ Cancelled as none := by
  rw [requested, getD_eq_true]
  exact hl.raised (.inl ⟨rfl, rfl⟩)

end Linked

/-! ## Receivers -/

section Attempts

variable {as : List Action} {a : Action} {n k : Nat}

theorem receptions_concat (s : Shutdown) :
    receptions n s (as ++ [a]) = receptions n s as ++ ((as.foldl act s).yield n a).toList := by
  induction as generalizing s with
  | nil => simp [receptions]
  | cons b as ih => rw [List.cons_append, receptions, receptions, ih, List.append_assoc, List.foldl_cons]

theorem given_concat : given n (as ++ [a]) = given n as + ((run as).yield n a).toList.count .signal := by
  rw [given, receptions_concat, List.count_append]
  rfl

theorem missed_concat :
    missed n (as ++ [a]) = missed n as + (((run as).yield n a).toList.map reported).sum := by
  rw [missed, receptions_concat, List.map_append, List.sum_append]
  rfl

theorem yield_of_ne (ha : a ≠ .receive n) : (run as).yield n a = none := by
  cases a with
  | receive m =>
    have hm : m ≠ n := by
      rintro rfl
      exact ha rfl
    exact if_neg hm
  | _ => rfl

/-- Before there is a receiver, it is given nothing. -/
theorem receptions_eq_nil (h : receiversMade as ≤ n) : receptions n {} as = [] := by
  induction as using List.reverseRecOn with
  | nil => rfl
  | append_singleton as a ih =>
    have hle : receiversMade as ≤ n := by
      rw [receiversMade_concat] at h
      omega
    have hnone : (run as).receivers[n]? = none := by
      rw [List.getElem?_eq_none_iff, length_receivers]
      exact hle
    have hyield : (run as).yield n a = none := by
      by_cases ha : a = .receive n
      · rw [ha, yield, if_pos rfl, receive_of_none hnone]
      · exact yield_of_ne ha
    rw [receptions_concat, ih hle, List.nil_append]
    exact congrArg Option.toList hyield

theorem due_concat : due n (as ++ [a]) = due n as + if a = .trigger ∧ n < receiversMade as then 1 else 0 := by
  induction as generalizing n with
  | nil =>
    cases n with
    | zero => simp [due, receiversMade, List.count_singleton]
    | succ n =>
      rw [if_neg (by simp [receiversMade])]
      cases a with
      | subscribe => cases n <;> rfl
      | _ => rfl
  | cons b as ih =>
    cases n with
    | zero =>
      rw [due, due, List.count_append, List.count_singleton]
      simp [receiversMade]
    | succ n =>
      by_cases hb : b = .subscribe
      · subst hb
        have hmade : receiversMade (.subscribe :: as) = receiversMade as + 1 := by simp [receiversMade]
        rw [List.cons_append, due, due, ih, hmade]
        simp only [Nat.add_lt_add_iff_right]
      · have hmade : receiversMade (b :: as) = receiversMade as := by simp [receiversMade, hb]
        have hdue : ∀ bs, due (n + 1) (b :: bs) = due (n + 1) bs := by
          intro bs
          rw [due]
          exact hb
        rw [List.cons_append, hdue, hdue, ih, hmade]

/-- Nothing is due before the subscription. -/
theorem due_eq_zero (h : receiversMade as ≤ n) : due n as = 0 := by
  induction as using List.reverseRecOn with
  | nil =>
    cases n with
    | zero => rfl
    | succ n => rfl
  | append_singleton as a ih =>
    have hle : receiversMade as ≤ n := by
      rw [receiversMade_concat] at h
      omega
    rw [due_concat, ih hle, if_neg]
    rintro ⟨-, hlt⟩
    omega

end Attempts

/-- A receiver is there, and what it was given, what it was told it missed and what is before it are what is due. -/
def Tracked (as : List Action) (n : Nat) : Prop :=
  ∃ c, (run as).receivers[n]? = some (some c) ∧ c.position ≤ (run as).sent ∧
    given n as + missed n as + ((run as).sent - c.position) = due n as

section Tracked

variable {as : List Action} {a : Action} {n : Nat}

theorem listening_concat : Listening (as ++ [a]) n ↔
    (Listening as n ∨ a = .subscribe ∧ n = receiversMade as ∧ .dropReceiver n ∉ as) ∧ a ≠ .dropReceiver n := by
  have hmade : receiversMade (as ++ [a]) = receiversMade as + if a = .subscribe then 1 else 0 := receiversMade_concat
  simp only [Listening, List.mem_append, List.mem_singleton, not_or, hmade]
  by_cases ha : a = .subscribe
  · subst ha
    simp only [↓reduceIte, Nat.lt_succ_iff_lt_or_eq, true_and]
    grind
  · simp only [ha, ↓reduceIte, Nat.add_zero, false_and, or_false]
    grind

theorem tracked_nil (h : Listening [] n) : Tracked [] n := by
  obtain rfl : n = 0 := Nat.lt_one_iff.1 h.1
  exact ⟨⟨0⟩, rfl, Nat.le_refl 0, rfl⟩

/-- An attempt accounts for what it yields. -/
theorem count_reception (r : Reception) : [r].count .signal + ([r].map reported).sum = r.count := by
  cases r <;> simp [Reception.count, reported]

theorem tracked_receive (hl : n < receiversMade as) (ht : Tracked as n) : Tracked (as ++ [.receive n]) n := by
  obtain ⟨c, hc, hle, hsum⟩ := ht
  have hreceive := receive_of_listening hc
  obtain ⟨hposition, hle'⟩ :
      (c.receive (run as).sent (run as).live).1.position = c.position + (c.receive (run as).sent (run as).live).2.count ∧
        (c.receive (run as).sent (run as).live).1.position ≤ (run as).sent :=
    Cursor.receive_position hle
  have hlt : n < (run as).receivers.length := by
    rw [length_receivers]
    exact hl
  have hyield : (run as).yield n (.receive n) = some (c.receive (run as).sent (run as).live).2 := by
    rw [yield, if_pos rfl, hreceive]
  have hcount := count_reception (c.receive (run as).sent (run as).live).2
  refine ⟨(c.receive (run as).sent (run as).live).1, ?_, ?_, ?_⟩
  · rw [run_concat, act, hreceive]
    exact List.getElem?_set_self hlt
  · rw [run_concat, act, hreceive]
    exact hle'
  · rw [given_concat, missed_concat, hyield, due_concat, run_concat, act, hreceive, Option.toList_some]
    simp only [hposition, reduceCtorEq, false_and, ↓reduceIte, Nat.add_zero]
    omega

/-- What is done to others leaves a receiver alone, but a request puts one more signal before it. -/
theorem tracked_other (hl : n < receiversMade as) (hreceive : a ≠ .receive n) (hdrop : a ≠ .dropReceiver n)
    (ht : Tracked as n) : Tracked (as ++ [a]) n := by
  obtain ⟨c, hc, hle, hsum⟩ := ht
  have hlt : n < (run as).receivers.length := by
    rw [length_receivers]
    exact hl
  refine ⟨c, ?_, ?_, ?_⟩
  · rw [run_concat, receivers_act hlt hreceive hdrop, hc]
  · rw [run_concat, adds_act.sent]
    exact Nat.le_add_right_of_le hle
  · rw [given_concat, missed_concat, yield_of_ne hreceive, due_concat, run_concat, adds_act.sent]
    simp only [Option.toList_none, List.count_nil, List.map_nil, List.sum_nil, Nat.add_zero, hl, and_true]
    omega

/-- A new receiver begins after all that was sent. -/
theorem tracked_subscribe : Tracked (as ++ [.subscribe]) (receiversMade as) := by
  have hnothing : receptions (receiversMade as) {} as = [] := receptions_eq_nil (Nat.le_refl _)
  refine ⟨⟨(run as).sent⟩, ?_, ?_, ?_⟩
  · rw [run_concat, ← length_receivers]
    exact List.getElem?_concat_length
  · rw [run_concat]
    exact Nat.le_refl _
  · rw [given_concat, missed_concat, yield_of_ne (by simp), due_concat, due_eq_zero (Nat.le_refl _), run_concat, given,
      missed, hnothing]
    simp [act, subscribe]

theorem tracked_concat (ih : Listening as n → Tracked as n) (h : Listening (as ++ [a]) n) : Tracked (as ++ [a]) n := by
  obtain ⟨hl | ⟨rfl, rfl, -⟩, hdrop⟩ := listening_concat.1 h
  · by_cases hreceive : a = .receive n
    · subst hreceive
      exact tracked_receive hl.1 (ih hl)
    · exact tracked_other hl.1 hreceive hdrop (ih hl)
  · exact tracked_subscribe

theorem tracked (h : Listening as n) : Tracked as n := by
  induction as using List.reverseRecOn with
  | nil => exact tracked_nil h
  | append_singleton as a ih => exact tracked_concat ih h

/-- What an attempt yields, by how many signals are before the receiver. -/
def outcome (ahead : Nat) (live : Bool) : Reception :=
  if ahead = 0 then if live = true then .empty else .closed
  else if ahead ≤ retained then .signal
  else .lagged (ahead - retained)

theorem receive_outcome {c : Cursor} {sent : Nat} (live : Bool) (h : c.position ≤ sent) :
    (c.receive sent live).2 = outcome (sent - c.position) live := by
  by_cases hnone : c.position = sent
  · have hzero : sent - c.position = 0 := by omega
    simp [Cursor.receive, outcome, hnone]
  · have hsome : sent - c.position ≠ 0 := by omega
    by_cases hlag : c.position + retained < sent
    · have hmany : ¬ sent - c.position ≤ retained := by omega
      simp [Cursor.receive, outcome, hnone, hsome, hlag, hmany, Nat.sub_right_comm]
    · have hfew : sent - c.position ≤ retained := by omega
      simp [Cursor.receive, outcome, hnone, hsome, hlag, hfew]

section Outcome

variable {ahead : Nat} {live : Bool}

theorem outcome_eq_signal : outcome ahead live = .signal ↔ 0 < ahead ∧ ahead ≤ retained := by
  unfold outcome
  split
  · cases live <;> simp [*]
  · split
    · simp only [true_iff]
      omega
    · simp only [reduceCtorEq, false_iff]
      omega

theorem outcome_eq_lagged {k : Nat} : outcome ahead live = .lagged k ↔ 0 < k ∧ ahead = retained + k := by
  unfold outcome
  split
  · cases live <;> simp <;> omega
  · split
    · simp only [reduceCtorEq, false_iff]
      omega
    · simp only [Reception.lagged.injEq]
      omega

theorem outcome_eq_empty : outcome ahead live = .empty ↔ ahead = 0 ∧ live = true := by
  unfold outcome
  split
  · cases live <;> simp [*]
  · split <;> simp [*]

theorem outcome_eq_closed : outcome ahead live = .closed ↔ ahead = 0 ∧ ¬ live = true := by
  unfold outcome
  split
  · cases live <;> simp [*]
  · split <;> simp [*]

end Outcome

end Tracked

/-! ## The whole history -/

/-- What a token shows: it comes from one origin, and is cancelled exactly if that origin was. -/
structure Shown (as : List Action) (n : Nat) (o : Option Nat) : Prop where
  origin : ∀ o', Origin as n o' ↔ o' = o
  cancelled : (run as).isCancelled n = true ↔ Cancelled as o
  requested : o = none → (run as).isCancelled n = (run as).requested

/-- What a receiver was given, what it was told it missed and what is still before it, to be read or skipped, make up
what was requested since it subscribed, and by the last of these it can be told what the next attempt yields. -/
structure Accounted (as : List Action) (n : Nat) : Prop where
  balance : given n as + missed n as + (run as).ahead n = due n as
  signal : ((run as).receive n).2 = some .signal ↔ 0 < (run as).ahead n ∧ (run as).ahead n ≤ retained
  lagged : ∀ k, ((run as).receive n).2 = some (.lagged k) ↔ 0 < k ∧ (run as).ahead n = retained + k
  empty : ((run as).receive n).2 = some .empty ↔ given n as + missed n as = due n as ∧ .drop ∉ as
  closed : ((run as).receive n).2 = some .closed ↔ given n as + missed n as = due n as ∧ .drop ∈ as

section Whole

variable {as : List Action} {n : Nat}

theorem Valid.shown (h : Valid as) (hn : n < tokensMade as) : ∃ o, Shown as n o := by
  have hl := h.linked
  obtain ⟨o, ho⟩ := hl.traced n hn
  refine ⟨o, ?_, hl.isCancelled_iff ho, ?_⟩
  · intro o'
    constructor
    · exact fun ho' => hl.origin_unique ho' ho
    · rintro rfl
      exact ho
  · rintro rfl
    rw [Bool.eq_iff_iff, hl.isCancelled_iff ho, hl.requested_iff]

theorem accounted (h : Listening as n) : Accounted as n := by
  obtain ⟨c, hc, hle, hsum⟩ := tracked h
  have hahead : (run as).ahead n = (run as).sent - c.position := by rw [ahead, hc]
  have hyield : ((run as).receive n).2 = some (outcome ((run as).ahead n) (run as).live) := by
    rw [receive_of_listening hc, receive_outcome _ hle, hahead]
  have hbalance : given n as + missed n as + (run as).ahead n = due n as := by rw [hahead, hsum]
  have hdone : given n as + missed n as = due n as ↔ (run as).ahead n = 0 := by omega
  constructor
  case balance => exact hbalance
  case signal => rw [hyield, Option.some.injEq, outcome_eq_signal]
  case lagged =>
    intro k
    rw [hyield, Option.some.injEq, outcome_eq_lagged]
  case empty => rw [hyield, Option.some.injEq, outcome_eq_empty, hdone, live_iff]
  case closed => rw [hyield, Option.some.injEq, outcome_eq_closed, hdone, live_iff, not_not]

theorem lt_of_isCancelled (h : (run as).isCancelled n = true) : n < tokensMade as := by
  rw [← length_tokens]
  apply Nat.lt_of_not_le
  intro hle
  rw [isCancelled, List.getElem?_eq_none hle] at h
  cases h

theorem isCancelled_of_prefix {bs : List Action} (h : Valid as) (hpre : bs <+: as)
    (hc : (run bs).isCancelled n = true) : (run as).isCancelled n = true := by
  obtain ⟨cs, rfl⟩ := hpre
  have hl := h.of_append.linked
  obtain ⟨o, ho⟩ := hl.traced n (lt_of_isCancelled hc)
  rw [h.linked.isCancelled_iff (ho.append cs)]
  exact ((hl.isCancelled_iff ho).1 hc).append cs

/-- In every history of a coordinator, its tokens and its receivers: a token shows whether it, or one that comes from
the same origin, was cancelled, or a shutdown was requested, if this is the coordinator; once cancelled it stays so;
whether a shutdown is requested is what the tokens of the coordinator show; and each receiver has accounted for all
requests since it subscribed but those that are still before it. -/
theorem requests_accounted {as : List Action} (h : Valid as) :
    (∀ n < tokensMade as, ∃ o, Shown as n o) ∧
      (∀ n bs, bs <+: as → (run bs).isCancelled n = true → (run as).isCancelled n = true) ∧
      ((run as).requested = true ↔ Cancelled as none) ∧
      ∀ n, Listening as n → Accounted as n := by
  refine ⟨?_, ?_, h.linked.requested_iff, ?_⟩
  · intro n hn
    exact h.shown hn
  · intro n bs hpre hc
    exact isCancelled_of_prefix h hpre hc
  · intro n hn
    exact accounted hn

/-- A clone is cancelled, then a shutdown is requested nine times, which is once more than a receiver can still be given;
another receiver subscribes before the last time. -/
def sampleHistory : List Action :=
  [.newToken, .clone 0, .token, .cancel 1] ++ List.replicate 8 .trigger ++ [.subscribe, .trigger, .receive 0, .drop]

theorem sample_requests_accounted :
    Valid sampleHistory ∧ (run sampleHistory).isCancelled 0 = true ∧
      (∃ o, Shown sampleHistory 2 o) ∧ (run (sampleHistory.take 4)).isCancelled 2 = false ∧
      (run sampleHistory).requested = true ∧
      given 0 sampleHistory + missed 0 sampleHistory + 8 = 9 ∧
      ((run sampleHistory).receive 0).2 = some .signal ∧ ((run sampleHistory).receive 1).2 = some .signal := by
  have hvalid : Valid sampleHistory := by decide
  obtain ⟨htokens, hkept, hrequested, hreceivers⟩ := requests_accounted hvalid
  refine ⟨hvalid, ?_, htokens 2 (by decide), by decide, ?_, ?_, ?_, ?_⟩
  · exact hkept 0 (sampleHistory.take 4) (List.take_prefix 4 _) (by decide)
  · exact hrequested.2 (((Cancelled.trigger (sampleHistory.take 4)).append (sampleHistory.drop 5)))
  · exact (hreceivers 0 (by decide)).balance
  · exact (hreceivers 0 (by decide)).signal.2 (by decide)
  · exact (hreceivers 1 (by decide)).signal.2 (by decide)

end Whole

end Conveyor.Shutdown
