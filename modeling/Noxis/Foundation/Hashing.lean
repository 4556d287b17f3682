import Noxis.Foundation.Bytes

namespace Foundation

/-!
# Hash functions and explicit collisions

No result of this development assumes that a hash function is injective; a
function from byte strings to digests cannot be.  A binding result says
instead that equal digests come from equal inputs, or that two different
inputs with the same digest can be read off the computations that were
compared.  For that the inputs are listed: `CollisionBetween` asks for one
input from each of two finite lists, so a collision is found by search and is
not merely known to exist by counting.
-/

variable {α β : Type}

/-- Two different inputs with the same digest. -/
def Collides (hash : α -> β) (left right : α) : Prop :=
  left ≠ right /\ hash left = hash right

/-- A collision between an input of one computation and one of another. -/
def CollisionBetween (hash : α -> β) (left right : List α) : Prop :=
  ∃ first ∈ left, ∃ second ∈ right, Collides hash first second

theorem eq_or_collides (hash : α -> β) {left right : α} (same : hash left = hash right) :
    left = right ∨ Collides hash left right := by
  by_cases equal : left = right
  · exact Or.inl equal
  · exact Or.inr ⟨equal, same⟩

namespace CollisionBetween

variable {hash : α -> β}

theorem mono {left left' right right'} (collision : CollisionBetween hash left right)
    (leftIncluded : forall input, input ∈ left -> input ∈ left')
    (rightIncluded : forall input, input ∈ right -> input ∈ right') :
    CollisionBetween hash left' right' := by
  rcases collision with ⟨first, firstMember, second, secondMember, collides⟩
  exact ⟨first, leftIncluded first firstMember, second, rightIncluded second secondMember, collides⟩

/-- A collision of a hash that first encodes its input is a collision of the
underlying hash between the encoded inputs. -/
theorem map {γ : Type} {encode : γ -> α} (injective : Function.Injective encode)
    {left right : List γ}
    (collision : CollisionBetween (fun input => hash (encode input)) left right) :
    CollisionBetween hash (left.map encode) (right.map encode) := by
  rcases collision with ⟨first, firstMember, second, secondMember, different, same⟩
  exact ⟨encode first, List.mem_map_of_mem firstMember, encode second,
    List.mem_map_of_mem secondMember, fun equal => different (injective equal), same⟩

theorem of_collides {left right : α} (collides : Collides hash left right) {lefts rights}
    (leftMember : left ∈ lefts) (rightMember : right ∈ rights) :
    CollisionBetween hash lefts rights :=
  ⟨left, leftMember, right, rightMember, collides⟩

end CollisionBetween

/-- Lists of items with the same digests in order are equal, or the encodings
of two items collide. -/
theorem eq_or_collision_of_map_eq {γ δ : Type} (hash : α -> β) (encode : γ -> α)
    (digestOf : γ -> δ) (readDigest : δ -> β) {left right : List γ}
    (leftHashed : forall item, item ∈ left -> readDigest (digestOf item) = hash (encode item))
    (rightHashed : forall item, item ∈ right -> readDigest (digestOf item) = hash (encode item))
    (determined : forall first second, first ∈ left -> second ∈ right ->
      encode first = encode second -> first = second)
    (same : left.map digestOf = right.map digestOf) :
    left = right ∨ CollisionBetween hash (left.map encode) (right.map encode) := by
  induction left generalizing right with
  | nil =>
    rw [List.map_nil, eq_comm, List.map_eq_nil_iff] at same
    exact Or.inl same.symm
  | cons first rest ih =>
    cases right with
    | nil => cases same
    | cons second others =>
      rw [List.map_cons, List.map_cons, List.cons.injEq] at same
      have sameDigest : hash (encode first) = hash (encode second) := by
        rw [← leftHashed first List.mem_cons_self, ← rightHashed second List.mem_cons_self, same.1]
      have later := ih
        (fun item member => leftHashed item (List.mem_cons_of_mem first member))
        (fun item member => rightHashed item (List.mem_cons_of_mem second member))
        (fun left right leftMember rightMember => determined left right
          (List.mem_cons_of_mem first leftMember) (List.mem_cons_of_mem second rightMember))
        same.2
      rcases eq_or_collides hash sameDigest with sameInput | collides
      · rcases later with sameRest | collision
        · rw [sameRest, determined first second List.mem_cons_self List.mem_cons_self sameInput]
          exact Or.inl rfl
        · exact Or.inr (collision.mono (fun _ member => List.mem_cons_of_mem _ member)
            (fun _ member => List.mem_cons_of_mem _ member))
      · exact Or.inr (CollisionBetween.of_collides collides List.mem_cons_self List.mem_cons_self)

/-- SHA-256 as a function from byte strings to digests. -/
class Sha256 where
  digest : List UInt8 -> Bytes 32

end Foundation
