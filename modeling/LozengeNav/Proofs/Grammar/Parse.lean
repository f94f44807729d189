import LozengeNav.Grammar.Parse

/-! # What readers leave

A reader takes tokens from the front and leaves the others as they are. Readers are
put together from a few that look at the tokens, so that this is found by instances:
a new rule of the grammar needs no more than to be unfolded.
-/

namespace LozengeNav

namespace Grammar

namespace Parse

/-- What a reader leaves is an end of the tokens that it was given. -/
class Consumes {α : Type} (p : Parse α) : Prop where
  suffix : ∀ {ts rest : List Token} {a : α}, p.run ts = some (a, rest) → rest <:+ ts

section Monad

variable {α β γ : Type}

theorem bind_run_eq_some {p : Parse α} {f : α → Parse β} {ts rest : List Token} {b : β} :
    (p >>= f).run ts = some (b, rest) ↔
      ∃ a middle, p.run ts = some (a, middle) ∧ (f a).run middle = some (b, rest) := by
  rw [StateT.run_bind, Option.bind_eq_bind, Option.bind_eq_some_iff]
  simp

theorem orElse_run_eq_some {p q : Parse α} {ts rest : List Token} {a : α}
    (h : (p <|> q).run ts = some (a, rest)) :
    p.run ts = some (a, rest) ∨ q.run ts = some (a, rest) := by
  have hrun : (p <|> q).run ts = (p.run ts <|> q.run ts) := rfl
  rw [hrun] at h
  cases hp : p.run ts with
  | none =>
      rw [hp] at h
      exact .inr h
  | some found =>
      rw [hp] at h
      exact .inl h

instance consumes_pure (a : α) : Consumes (pure a : Parse α) where
  suffix h := by
    cases h
    exact List.suffix_rfl

instance consumes_failure : Consumes (failure : Parse α) where
  suffix h := by cases h

instance consumes_get : Consumes (get : Parse (List Token)) where
  suffix h := by
    cases h
    exact List.suffix_rfl

instance consumes_bind {p : Parse α} {f : α → Parse β} [hp : Consumes p]
    [hf : ∀ a, Consumes (f a)] : Consumes (p >>= f) where
  suffix h := by
    obtain ⟨a, middle, hfirst, hrest⟩ := bind_run_eq_some.1 h
    exact ((hf a).suffix hrest).trans (hp.suffix hfirst)

/-- What is read behind a pair may look at its parts. -/
instance consumes_bind_pair {p : Parse (α × β)} {f : α × β → Parse γ} [hp : Consumes p]
    [hf : ∀ a b, Consumes (f (a, b))] : Consumes (p >>= f) :=
  have : ∀ pair, Consumes (f pair) := fun (a, b) => hf a b
  consumes_bind

instance consumes_ite {c : Prop} [Decidable c] {p q : Parse α} [hp : Consumes p]
    [hq : Consumes q] : Consumes (if c then p else q) := by
  split <;> assumption

instance consumes_orElse {p q : Parse α} [hp : Consumes p] [hq : Consumes q] :
    Consumes (p <|> q) where
  suffix h := (orElse_run_eq_some h).elim hp.suffix hq.suffix

end Monad

/-! ## Tokens -/

instance consumes_sees (p : Token → Bool) : Consumes (sees p) := by
  unfold sees
  infer_instance

instance consumes_seesTwo (p q : Token → Bool) : Consumes (seesTwo p q) where
  suffix {ts _ _} h := by
    unfold seesTwo at h
    obtain ⟨_, _, hget, hrest⟩ := bind_run_eq_some.1 h
    cases hget
    match ts with
    | [] => exact (consumes_pure false).suffix hrest
    | [_] => exact (consumes_pure false).suffix hrest
    | a :: b :: _ => exact (consumes_pure (p a && q b)).suffix hrest

theorem next_run_eq_some {ts rest : List Token} {t : Token} :
    next.run ts = some (t, rest) ↔ ts = t :: rest := by
  cases ts with
  | nil => exact ⟨nofun, nofun⟩
  | cons first more =>
      have hrun : next.run (first :: more) = some (first, more) := rfl
      simp [hrun]

instance consumes_next : Consumes next where
  suffix h := by
    rw [next_run_eq_some.1 h]
    exact List.suffix_cons _ _

instance consumes_expect (p : Token → Bool) : Consumes (expect p) := by
  unfold expect
  infer_instance

instance consumes_accept (p : Token → Bool) : Consumes (accept p) := by
  unfold accept
  infer_instance

instance consumes_seesMark (text : String) : Consumes (seesMark text) :=
  consumes_sees _

instance consumes_seesWord (text : String) : Consumes (seesWord text) :=
  consumes_sees _

instance consumes_acceptMark (text : String) : Consumes (acceptMark text) :=
  consumes_accept _

instance consumes_acceptWord (text : String) : Consumes (acceptWord text) :=
  consumes_accept _

instance consumes_mark (text : String) : Consumes (mark text) := by
  unfold mark
  infer_instance

instance consumes_word (text : String) : Consumes (word text) := by
  unfold word
  infer_instance

instance consumes_name : Consumes name := by
  unfold name
  infer_instance

instance consumes_kind (k : TokenKind) : Consumes (kind k) := by
  unfold kind
  infer_instance

/-! ## Repetition -/

section Repetition

variable {α : Type}

instance consumes_collectUpTo {item : Parse (Option α)} [hitem : Consumes item] (fuel : Nat) :
    Consumes (collectUpTo item fuel) := by
  induction fuel with
  | zero => exact consumes_pure []
  | succ fuel ih =>
      have hmore : ∀ found : Option α, Consumes (match found with
          | some a => do return a :: (← collectUpTo item fuel)
          | none => return [] : Parse (List α)) := fun found => by
        cases found <;> infer_instance
      exact consumes_bind

instance consumes_collect {item : Parse (Option α)} [Consumes item] : Consumes (collect item) := by
  unfold collect
  infer_instance

instance consumes_repeats {item : Parse Bool} [Consumes item] : Consumes (repeats item) := by
  unfold repeats
  infer_instance

instance consumes_commas {starts : Token → Bool} {item : Parse α} [Consumes item] :
    Consumes (commas starts item) := by
  have hmore : ∀ ts : List Token, Consumes (match ts with
      | comma :: t :: _ =>
        if comma.isMark "," && starts t then do
          mark ","
          return some (← item)
        else return none
      | _ => return none : Parse (Option α)) := by
    intro ts
    split <;> infer_instance
  unfold commas
  infer_instance

end Repetition

end Parse

end Grammar

end LozengeNav
