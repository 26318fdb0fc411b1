import InstallStatus.Json.Basic

/-!
Whether two documents are one and the same, which is decided part by part. It differs from the equality
of values only on the two floating-point zeros, which are equal but not the same.
-/

namespace InstallStatus.Json

mutual

def identical : Json → Json → Bool
  | .null, .null => true
  | .bool a, .bool b => a == b
  | .number a, .number b => a == b
  | .string a, .string b => a == b
  | .array as, .array bs => identicalItems as bs
  | .object as, .object bs => identicalFields as bs
  | _, _ => false

def identicalItems : List Json → List Json → Bool
  | [], [] => true
  | a :: as, b :: bs => identical a b && identicalItems as bs
  | _, _ => false

def identicalFields : List (String × Json) → List (String × Json) → Bool
  | [], [] => true
  | (k, a) :: as, (l, b) :: bs => k == l && identical a b && identicalFields as bs
  | _, _ => false

end

mutual

theorem identical_iff (a b : Json) : identical a b = true ↔ a = b := by
  cases a with
  | null => cases b <;> simp [identical]
  | bool a => cases b <;> simp [identical]
  | number a => cases b <;> simp [identical]
  | string a => cases b <;> simp [identical]
  | array as => cases b <;> simp [identical, identicalItems_iff as]
  | object as => cases b <;> simp [identical, identicalFields_iff as]

theorem identicalItems_iff (as bs : List Json) : identicalItems as bs = true ↔ as = bs := by
  match as, bs with
  | [], [] => simp [identicalItems]
  | [], _ :: _ => simp [identicalItems]
  | _ :: _, [] => simp [identicalItems]
  | a :: as, b :: bs => simp [identicalItems, identical_iff a, identicalItems_iff as]

theorem identicalFields_iff (as bs : List (String × Json)) :
    identicalFields as bs = true ↔ as = bs := by
  match as, bs with
  | [], [] => simp [identicalFields]
  | [], _ :: _ => simp [identicalFields]
  | _ :: _, [] => simp [identicalFields]
  | (k, a) :: as, (l, b) :: bs =>
    simp [identicalFields, identical_iff a, identicalFields_iff as]

end

instance : DecidableEq Json := fun a b => decidable_of_iff (identical a b = true) (identical_iff a b)

end InstallStatus.Json
