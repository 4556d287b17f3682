import Noxis.Foundation.Reader

namespace Foundation

/-!
# Reading until the input is exhausted

Some formats do not count their items: a decoder returns the next item, or
none at the end of the input, and a loop handles one item after the other.
The loop ends because every item takes up room in the input.
-/

variable {ε α β σ : Type}

/-- Whenever the decoder succeeds, it has read at least `count` bytes. -/
def Consumes (count : Nat) (read : EStateM ε Reader α) : Prop :=
  forall start value final, read start = .ok value final ->
    final.remaining + count <= start.remaining

namespace Consumes

theorem weaken {count fewer : Nat} {read : EStateM ε Reader α} (consumes : Consumes count read)
    (atMost : fewer <= count) : Consumes fewer read := by
  intro start value final succeeded
  have room := consumes start value final succeeded
  omega

theorem pure (value : α) : Consumes 0 (Pure.pure value : EStateM ε Reader α) := by
  intro start result final succeeded
  cases succeeded
  exact Nat.le_refl _

theorem throw (count : Nat) (reason : ε) :
    Consumes count (MonadExcept.throw reason : EStateM ε Reader α) := by
  intro start result final succeeded
  cases succeeded

theorem exact [ReaderErrors ε] (length : Nat) :
    Consumes length (readExact length : EStateM ε Reader (List UInt8)) := by
  intro start result final succeeded
  unfold readExact at succeeded
  split_ifs at succeeded with overflow fits
  cases succeeded
  unfold Reader.remaining
  dsimp only
  omega

theorem bind {first second : Nat} {read : EStateM ε Reader α} {next : α -> EStateM ε Reader β}
    (consumes : Consumes first read) (nextConsumes : forall value, Consumes second (next value)) :
    Consumes (first + second) (read >>= next) := by
  intro start result final succeeded
  rcases bind_eq_ok.mp succeeded with ⟨value, middle, isRead, isNext⟩
  have before := consumes start value middle isRead
  have after := nextConsumes value middle result final isNext
  omega

theorem ite {count : Nat} {condition : Prop} [Decidable condition] {left right : EStateM ε Reader α}
    (leftConsumes : Consumes count left) (rightConsumes : Consumes count right) :
    Consumes count (if condition then left else right) := by
  split
  · exact leftConsumes
  · exact rightConsumes

end Consumes

/-- A decoder of the next item, if there is one. -/
structure ItemReader (ε α : Type) where
  next : EStateM ε Reader (Option α)
  shrinks : forall start item final, next start = .ok (some item) final ->
    final.remaining < start.remaining

/-- Handle the items in order until there is none left. -/
def ItemReader.fold (items : ItemReader ε α) (handle : σ -> α -> Except ε σ) (state : σ)
    (reader : Reader) : EStateM.Result ε Reader σ :=
  match isNext : items.next reader with
  | .error reason final => .error reason final
  | .ok none final => .ok state final
  | .ok (some item) final =>
    have : final.remaining < reader.remaining := items.shrinks reader item final isNext
    match handle state item with
    | .error reason => .error reason final
    | .ok next => items.fold handle next final
termination_by reader.remaining

end Foundation
