import BuildMatrix.Failure

namespace BuildMatrix

def Decimal.scaled (decimal : Decimal) : Int :=
  if decimal.negative then -Int.ofNat decimal.digits else Int.ofNat decimal.digits

namespace Value

-- A number as a whole number and how many of its digits stand behind the
-- point. Flags count as zero and one.
def number? : Value → Option (Int × Nat)
  | .bool flag => some (if flag then 1 else 0, 0)
  | .int number => some (number, 0)
  | .real number => some (number.scaled, number.places)
  | _ => none

def orderNumbers (first second : Int × Nat) : Ordering :=
  compare (first.1 * Int.ofNat (Nat.pow 10 second.2)) (second.1 * Int.ofNat (Nat.pow 10 first.2))

def order? (first second : Value) : Option Ordering :=
  match first, second with
  | .text a, .text b => some (compare a b)
  | a, b => do return orderNumbers (← a.number?) (← b.number?)

def sameKey (first second : Value) : Bool :=
  match first, second with
  | .null, .null => true
  | a, b => a.order? b == some .eq

def isBefore (first second : Value) : Except Failure Bool :=
  match first.order? second with
  | some order => .ok (order == .lt)
  | none => .error (.notComparable first second)

def goingOn (down : Bool) : Value → List Value → Except Failure (List Value × List Value)
  | _, [] => .ok ([], [])
  | last, value :: rest => do
      if (← value.isBefore last) == down then
        let (further, others) ← goingOn down value rest
        return (value :: further, others)
      else return ([], value :: rest)

def insertSorted (value : Value) (values : List Value) : Except Failure (List Value) :=
  match _found : values.drop (values.length / 2) with
  | [] => .ok (values ++ [value])
  | middle :: above => do
      let below := values.take (values.length / 2)
      if ← value.isBefore middle then return (← insertSorted value below) ++ middle :: above
      else return below ++ middle :: (← insertSorted value above)
termination_by values.length
decreasing_by
  · have split := congrArg List.length _found
    simp only [List.length_drop, List.length_cons] at split
    rw [List.length_take]
    omega
  · have split := congrArg List.length _found
    simp only [List.length_drop, List.length_cons] at split
    omega

-- Values are taken in their order, the first ones as they stand as long as they
-- go in one direction. Two that have no order end the sorting when they meet.
def sorted : List Value → Except Failure (List Value)
  | [] => .ok []
  | [value] => .ok [value]
  | first :: second :: rest => do
      let down ← second.isBefore first
      let (further, others) ← goingOn down second rest
      let start := first :: second :: further
      others.foldlM (fun values value => insertSorted value values) (if down then start.reverse else start)

end Value
end BuildMatrix
