/-!
# Finite maps as lists of pairs

A list of pairs of a key and a value. `put` keeps the keys distinct and their order that of first
insertion; `get?` is the view through which maps are compared.
-/

namespace WebhookTrust.Assoc

variable {κ α : Type} [DecidableEq κ]

/-- The value of a key; the first counts. -/
def get? (key : κ) : List (κ × α) → Option α
  | [] => none
  | (k, value) :: rest => if k = key then some value else get? key rest

/-- Sets the value of a key: in place if the key is there, at the end if not. -/
def put (key : κ) (value : α) : List (κ × α) → List (κ × α)
  | [] => [(key, value)]
  | (k, old) :: rest => if k = key then (key, value) :: rest else (k, old) :: put key value rest

/-- Removes a key. -/
def erase (key : κ) (pairs : List (κ × α)) : List (κ × α) := pairs.filter fun pair ↦ pair.1 ≠ key

@[simp] theorem get?_nil (key : κ) : get? key ([] : List (κ × α)) = none := rfl

@[simp] theorem get?_put_self (key : κ) (value : α) (pairs : List (κ × α)) :
    get? key (put key value pairs) = some value := by
  induction pairs with
  | nil => simp [put, get?]
  | cons pair rest ih => by_cases h : pair.1 = key <;> simp [put, get?, h, ih]

theorem get?_put_of_ne {key other : κ} (h : other ≠ key) (value : α) (pairs : List (κ × α)) :
    get? other (put key value pairs) = get? other pairs := by
  induction pairs with
  | nil => simp [put, get?, h.symm]
  | cons pair rest ih =>
    by_cases hk : pair.1 = key
    · simp [put, get?, hk, h.symm]
    · by_cases ho : pair.1 = other
      · subst ho
        simp [put, get?, h]
      · simp [put, get?, hk, ho, ih]

theorem get?_put (key other : κ) (value : α) (pairs : List (κ × α)) :
    get? other (put key value pairs) = if other = key then some value else get? other pairs := by
  by_cases h : other = key
  · simp [h]
  · simp [h, get?_put_of_ne h]

end WebhookTrust.Assoc
