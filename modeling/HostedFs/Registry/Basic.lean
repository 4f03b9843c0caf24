/-! # Tokens and their registry

    The native side carries one address for each mount and hands it back with
    every request. A token is such an address, never null; the registry tells
    which object it stands for. An object is registered under a token that is
    not in use, and the token can be used again once it is released.
-/

namespace HostedFs

/-- The address by which the native side knows a registered object. -/
structure Token where
  address : Nat
  ne_null : address ≠ 0
  deriving DecidableEq, Repr

namespace Token

/-- The address handed to the native side. -/
def toPointer (t : Token) : Nat :=
  t.address

/-- The token of an address from the native side, unless that is null. -/
def ofPointer? (pointer : Nat) : Option Token :=
  if h : pointer ≠ 0 then some ⟨pointer, h⟩ else none

@[simp] theorem ofPointer?_toPointer (t : Token) : ofPointer? t.toPointer = some t :=
  dif_pos t.ne_null

/-- The addresses of registered objects, each with room for one. -/
def nth (n : Nat) : Token :=
  ⟨64 * (n + 1), by omega⟩

/-- The token as messages show it. -/
def render (t : Token) : String :=
  s!"Token({t.address})"

end Token

/-- The registered objects under their tokens. -/
structure Registry (α : Type) where
  entries : List (Token × α) := []

namespace Registry

variable {α : Type}

/-- The object that a token stands for. -/
def lookup (r : Registry α) (t : Token) : Option α :=
  (r.entries.find? (·.1 = t)).map Prod.snd

/-- The registry without a token. -/
def erase (r : Registry α) (t : Token) : Registry α :=
  ⟨r.entries.filter (·.1 ≠ t)⟩

/-- The registry with an object under a token. -/
def insert (r : Registry α) (t : Token) (a : α) : Registry α :=
  ⟨(t, a) :: (r.erase t).entries⟩

/-- The number of registered objects. -/
def size (r : Registry α) : Nat :=
  r.entries.length

/-- No object is registered. -/
def isEmpty (r : Registry α) : Bool :=
  r.size == 0

/-- Takes an object out of the registry. -/
def release (r : Registry α) (t : Token) : Option α × Registry α :=
  (r.lookup t, r.erase t)

/-- The registry as messages show it. -/
def render (r : Registry α) : String :=
  "HandleRegistry \x7b live: " ++ toString r.size ++ " \x7d"

@[simp] theorem lookup_insert_self (r : Registry α) (t : Token) (a : α) :
    (r.insert t a).lookup t = some a := by
  simp [insert, lookup]

@[simp] theorem lookup_erase_self (r : Registry α) (t : Token) : (r.erase t).lookup t = none := by
  simp [erase, lookup]

theorem lookup_erase_ne (r : Registry α) {t u : Token} (h : u ≠ t) :
    (r.erase t).lookup u = r.lookup u := by
  simp only [erase, lookup, List.find?_filter]
  congr 2
  funext e
  by_cases hu : e.1 = u <;> simp [hu, h]

theorem lookup_insert_ne (r : Registry α) {t u : Token} (a : α) (h : u ≠ t) :
    (r.insert t a).lookup u = r.lookup u := by
  rw [← lookup_erase_ne r h]
  simp [insert, lookup, Ne.symm h]

/-- There is always a token that is not in use. -/
theorem exists_lookup_eq_none (r : Registry α) : ∃ t, r.lookup t = none := by
  have hbound : ∀ entries : List (Token × α), ∃ n, ∀ e ∈ entries, e.1.address ≤ n := by
    intro entries
    induction entries with
    | nil => exact ⟨0, nofun⟩
    | cons e entries ih =>
      obtain ⟨n, hn⟩ := ih
      refine ⟨max e.1.address n, fun d hd => ?_⟩
      rcases List.mem_cons.mp hd with rfl | hd
      · exact Nat.le_max_left ..
      · exact Nat.le_trans (hn d hd) (Nat.le_max_right ..)
  obtain ⟨n, hn⟩ := hbound r.entries
  refine ⟨⟨n + 1, Nat.succ_ne_zero n⟩, ?_⟩
  rw [lookup, Option.map_eq_none_iff, List.find?_eq_none]
  intro e he heq
  have hle := hn e he
  rw [of_decide_eq_true heq] at hle
  exact Nat.not_succ_le_self n hle

end Registry

end HostedFs
