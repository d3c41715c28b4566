import Mathlib.Data.Nat.Digits.Defs

namespace FastReact

/-!
# The helpers for children

`mapIntoArray` calls a callback for every leaf of a children value and collects what the
callback returns.  Elements get the name of their place as their key.  The callback is any
code that may change its world and throw.
-/

/-- A string, as its code units. -/
abbrev JsString := List UInt16

def unit (character : Char) : UInt16 :=
  UInt16.ofNat character.toNat

def digit36 (value : Nat) : UInt16 :=
  if value < 10 then UInt16.ofNat (48 + value) else UInt16.ofNat (87 + value)

/-- `index.toString(36)`. -/
def toString36 (index : Nat) : JsString :=
  if index = 0 then [unit '0'] else ((Nat.digits 36 index).map digit36).reverse

/-- The values that children are built from, or that a callback may return.  An object may
have a key; `throwing` is an object whose visit throws: a lazy or a thenable that is not
fulfilled, or an object that is no child. -/
inductive ChildrenValue (Value Error : Type) where
  | nullish
  | boolean (value : Bool)
  | function
  | primitive (value : Value)
  | element (key : Option JsString) (value : Value)
  | portal (key : Option JsString) (value : Value)
  | array (key : Option JsString) (items : List (ChildrenValue Value Error))
  | iterable (key : Option JsString) (items : List (ChildrenValue Value Error))
  | lazy (key : Option JsString) (resolved : ChildrenValue Value Error)
  | thenable (key : Option JsString) (resolved : ChildrenValue Value Error)
  | throwing (key : Option JsString) (error : Error)

variable {Value Error World : Type}

def ChildrenValue.key : ChildrenValue Value Error → Option JsString
  | .nullish => none
  | .boolean _ => none
  | .function => none
  | .primitive _ => none
  | .element key _ => key
  | .portal key _ => key
  | .array key _ => key
  | .iterable key _ => key
  | .lazy key _ => key
  | .thenable key _ => key
  | .throwing key _ => key

namespace ChildrenHelper

/-- What becomes of a code unit of an explicit key. -/
def escapeUnit (codeUnit : UInt16) : JsString :=
  if codeUnit = unit '=' then [unit '=', unit '0']
  else if codeUnit = unit ':' then [unit '=', unit '2']
  else [codeUnit]

def escapeKey (key : JsString) : JsString :=
  unit '$' :: key.flatMap escapeUnit

def getElementKey (element : ChildrenValue Value Error) (index : Nat) : JsString :=
  match element.key with
  | some key => escapeKey key
  | none => toString36 index

/-- Every run of slashes gets one more. -/
def escapeUserProvidedKey : JsString → JsString
  | [] => []
  | codeUnit :: later =>
      if codeUnit = unit '/' ∧ later.head? ≠ some (unit '/') then
        codeUnit :: unit '/' :: escapeUserProvidedKey later
      else
        codeUnit :: escapeUserProvidedKey later

/-- The part of a new key that comes from the key of the mapped element, unless the child
had the same one. -/
def mappedKey (child : ChildrenValue Value Error) : Option JsString → JsString
  | none => []
  | some key => if child.key = some key then [] else escapeUserProvidedKey key ++ [unit '/']

/-- A mapped child as it is collected: an element gets its new key. -/
def replaceKey (escapedPrefix childKey : JsString) (child : ChildrenValue Value Error) :
    ChildrenValue Value Error → ChildrenValue Value Error
  | .element key value => .element (some (escapedPrefix ++ mappedKey child key ++ childKey)) value
  | mappedChild => mappedChild

/-- Collect a mapped child; what is to be done with an array is a parameter. -/
def pushMapped
    (flatten : JsString → ChildrenValue Value Error → List (ChildrenValue Value Error) →
      Except Error (List (ChildrenValue Value Error)))
    (escapedPrefix childKey : JsString) (child mappedChild : ChildrenValue Value Error)
    (array : List (ChildrenValue Value Error)) : Except Error (List (ChildrenValue Value Error)) :=
  match mappedChild with
  | .array key items =>
      flatten (escapeUserProvidedKey childKey ++ [unit '/']) (.array key items) array
  | .nullish => .ok array
  | mappedChild => .ok (array ++ [replaceKey escapedPrefix childKey child mappedChild])

def childKeyOf (nameSoFar : JsString) (child : ChildrenValue Value Error) : JsString :=
  if nameSoFar = [] then unit '.' :: getElementKey child 0 else nameSoFar

def nextNamePrefix (nameSoFar : JsString) : JsString :=
  if nameSoFar = [] then [unit '.'] else nameSoFar ++ [unit ':']

section Traversal

variable
  (flatten : JsString → ChildrenValue Value Error → List (ChildrenValue Value Error) →
    Except Error (List (ChildrenValue Value Error)))
  (escapedPrefix : JsString)
  (callback : ChildrenValue Value Error → EStateM Error World (ChildrenValue Value Error))

/-- The branch of `mapIntoArray` that invokes the callback. -/
def invokeCallback (child : ChildrenValue Value Error) (array : List (ChildrenValue Value Error))
    (nameSoFar : JsString) : EStateM Error World (List (ChildrenValue Value Error) × Nat) := do
  let mappedChild ← callback child
  let array ← ofExcept
    (pushMapped flatten escapedPrefix (childKeyOf nameSoFar child) child mappedChild array)
  pure (array, 1)

mutual

/-- `mapIntoArray` up to what it does with an array that the callback has returned. -/
def mapIntoArrayWith :
    ChildrenValue Value Error → List (ChildrenValue Value Error) → JsString →
      EStateM Error World (List (ChildrenValue Value Error) × Nat)
  | .nullish, array, nameSoFar =>
      invokeCallback flatten escapedPrefix callback .nullish array nameSoFar
  | .boolean _, array, nameSoFar =>
      invokeCallback flatten escapedPrefix callback .nullish array nameSoFar
  | .function, array, _ => pure (array, 0)
  | .primitive value, array, nameSoFar =>
      invokeCallback flatten escapedPrefix callback (.primitive value) array nameSoFar
  | .element key value, array, nameSoFar =>
      invokeCallback flatten escapedPrefix callback (.element key value) array nameSoFar
  | .portal key value, array, nameSoFar =>
      invokeCallback flatten escapedPrefix callback (.portal key value) array nameSoFar
  | .array _ items, array, nameSoFar => mapMembers items array (nextNamePrefix nameSoFar) 0
  | .iterable _ items, array, nameSoFar => mapMembers items array (nextNamePrefix nameSoFar) 0
  | .lazy _ resolved, array, nameSoFar => mapIntoArrayWith resolved array nameSoFar
  | .thenable _ resolved, array, nameSoFar => mapIntoArrayWith resolved array nameSoFar
  | .throwing _ error, _, _ => throw error

/-- The loop over the members of an array or of an iterable. -/
def mapMembers :
    List (ChildrenValue Value Error) → List (ChildrenValue Value Error) → JsString → Nat →
      EStateM Error World (List (ChildrenValue Value Error) × Nat)
  | [], array, _, _ => pure (array, 0)
  | child :: later, array, namePrefix, index => do
      let (array, subtreeCount) ←
        mapIntoArrayWith child array (namePrefix ++ getElementKey child index)
      let (array, laterCount) ← mapMembers later array namePrefix (index + 1)
      pure (array, subtreeCount + laterCount)

end

end Traversal

/-- The array of a result, without the number of leaves and the world. -/
def arrayOf :
    EStateM.Result Error World (List (ChildrenValue Value Error) × Nat) →
      Except Error (List (ChildrenValue Value Error))
  | .ok (array, _) _ => .ok array
  | .error error _ => .error error

/-- An array that a callback has returned is flattened.  Its leaves are mapped to themselves,
and no leaf is an array. -/
def flattenMapped (escapedChildKey : JsString) (mappedChild : ChildrenValue Value Error)
    (array : List (ChildrenValue Value Error)) : Except Error (List (ChildrenValue Value Error)) :=
  arrayOf ((mapIntoArrayWith (fun _ _ array => .ok array) escapedChildKey pure mappedChild array
    []).run PUnit.unit)

def mapIntoArray (children : ChildrenValue Value Error) (array : List (ChildrenValue Value Error))
    (escapedPrefix nameSoFar : JsString)
    (callback : ChildrenValue Value Error → EStateM Error World (ChildrenValue Value Error)) :
    EStateM Error World (List (ChildrenValue Value Error) × Nat) :=
  mapIntoArrayWith flattenMapped escapedPrefix callback children array nameSoFar

/-- A callback that also gets the number of calls before, which is kept with the world. -/
def numbered
    (func : ChildrenValue Value Error → Nat → EStateM Error World (ChildrenValue Value Error))
    (child : ChildrenValue Value Error) :
    EStateM Error (World × Nat) (ChildrenValue Value Error) := fun (world, count) =>
  match (func child count).run world with
  | .ok mappedChild after => .ok mappedChild (after, count + 1)
  | .error error after => .error error (after, count + 1)

/-- Children that are `null` or `undefined` are returned as they are. -/
def mapChildrenImpl (children : ChildrenValue Value Error)
    (func : ChildrenValue Value Error → Nat → EStateM Error World (ChildrenValue Value Error)) :
    EStateM Error World (Option (List (ChildrenValue Value Error))) := fun world =>
  match children with
  | .nullish => .ok none world
  | children =>
      match (mapIntoArray children [] [] [] (numbered func)).run (world, 0) with
      | .ok (result, _) (after, _) => .ok (some result) after
      | .error error (after, _) => .error error after

def map (children : ChildrenValue Value Error)
    (func : ChildrenValue Value Error → Nat → EStateM Error World (ChildrenValue Value Error)) :
    EStateM Error World (Option (List (ChildrenValue Value Error))) :=
  mapChildrenImpl children func

def forEach (children : ChildrenValue Value Error)
    (forEachFunc : ChildrenValue Value Error → Nat → EStateM Error World PUnit) :
    EStateM Error World PUnit := do
  let _ ← mapChildrenImpl children fun child index => do
    forEachFunc child index
    pure .nullish

/-- The callback of `count` only counts; its own counter is its world. -/
def count (children : ChildrenValue Value Error) : Except Error Nat :=
  let counting : EStateM Error Nat (Option (List (ChildrenValue Value Error))) :=
    mapChildrenImpl children fun _ _ => do
      modify Nat.succ
      pure .nullish
  match counting.run 0 with
  | .ok _ count => .ok count
  | .error error _ => .error error

def toArray (children : ChildrenValue Value Error) :
    EStateM Error World (List (ChildrenValue Value Error)) := do
  let mapped ← mapChildrenImpl children fun child _ => pure child
  pure (mapped.getD [])

end ChildrenHelper

end FastReact
