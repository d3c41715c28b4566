import FastReact.ChildrenHelper
import FastReact.SuccessfulRuns

namespace FastReact

/-!
# Payloads of property updates

A payload tells how the attributes and styles of a host node change with its props.  Values
are compared as `===` does: objects, functions and symbols by their identity.  What an
object holds is kept in a heap, which does not change.
-/

def js (text : String) : JsString :=
  text.toList.map unit

/-- A number: a finite one other than zero is named by its shortest decimal form. -/
inductive JsNumber where
  | nan
  | infinity (isNegative : Bool)
  | zero (isNegative : Bool)
  | nonzero (text : JsString)
deriving DecidableEq

inductive JsValue where
  | undefined
  | null
  | boolean (value : Bool)
  | number (value : JsNumber)
  | string (value : JsString)
  | bigint (text : JsString)
  | symbol (id : Nat)
  | function (id : Nat)
  | object (id : Nat)
deriving DecidableEq

/-- The own enumerable properties of an object, in their order. -/
structure JsProperties where
  own : List (JsString × JsValue)
  distinct : (own.map Prod.fst).Nodup

/-- An object; its conversion to a string is missing where it throws. -/
structure JsObject where
  properties : JsProperties
  text : Option JsString

abbrev JsHeap := Nat → JsObject

namespace JsNumber

def text : JsNumber → JsString
  | .nan => js "NaN"
  | .infinity isNegative => if isNegative then js "-Infinity" else js "Infinity"
  | .zero _ => js "0"
  | .nonzero text => text

def isFinite : JsNumber → Bool
  | .nan => false
  | .infinity _ => false
  | .zero _ => true
  | .nonzero _ => true

def isZero : JsNumber → Bool
  | .zero _ => true
  | _ => false

def strictEquals : JsNumber → JsNumber → Bool
  | .nan, _ => false
  | .zero _, .zero _ => true
  | first, second => first = second

end JsNumber

namespace JsValue

def isNullish : JsValue → Bool
  | .undefined => true
  | .null => true
  | _ => false

def strictEquals : JsValue → JsValue → Bool
  | .number first, .number second => first.strictEquals second
  | first, second => first = second

def isTruthy : JsValue → Bool
  | .undefined => false
  | .null => false
  | .boolean value => value
  | .number .nan => false
  | .number value => !value.isZero
  | .string value => value ≠ []
  | .bigint text => text ≠ js "0"
  | _ => true

end JsValue

/-- What every object inherits. -/
def objectPrototypeNames : List JsString :=
  [js "constructor", js "__defineGetter__", js "__defineSetter__", js "hasOwnProperty",
    js "__lookupGetter__", js "__lookupSetter__", js "isPrototypeOf",
    js "propertyIsEnumerable", js "toString", js "valueOf", js "toLocaleString"]

/-- An inherited property: a function, or the prototype itself. -/
def inheritedProperty (name : JsString) : JsValue :=
  if name = js "__proto__" then
    .object 0
  else if name ∈ objectPrototypeNames then
    .function (objectPrototypeNames.idxOf name)
  else
    .undefined

namespace JsProperties

def empty : JsProperties where
  own := []
  distinct := List.nodup_nil

variable (properties : JsProperties)

def keys : List JsString :=
  properties.own.map Prod.fst

def hasOwn (name : JsString) : Bool :=
  name ∈ properties.keys

def get (name : JsString) : JsValue :=
  (properties.own.lookup name).getD (inheritedProperty name)

end JsProperties

/-- An entry of a payload.  Of entries that change nothing the texts are left out, but for
whether they are there. -/
inductive PayloadEntry where
  | setAttribute (propName attributeName value : JsString)
  | removeAttribute (propName attributeName : JsString)
  | setStyle (propName styleName value : JsString)
  | removeStyle (propName styleName : JsString)
  | setInnerHTML (propName value : JsString)
  | nonPayload (propName : JsString) (hasMetadata : Bool)
  | unsupported (propName : JsString)
deriving DecidableEq

inductive DomHostError where
  | notAFunction
  | invalidPayloadEntry (index : Nat)
  | blockedPayloadEntry (index : Nat)
deriving DecidableEq

inductive AttributeValueKind where
  | known
  | booleanishString
  | boolean
  | dataOrAria
  | customLowercase
deriving DecidableEq

structure OrdinaryAttribute where
  name : JsString
  valueKind : AttributeValueKind
deriving DecidableEq

namespace PropertyPayload

def attributeAliases : List (JsString × JsString) :=
  [(js "className", js "class"), (js "htmlFor", js "for"), (js "tabIndex", js "tabindex")]

def knownStringAttributeNames : List JsString :=
  [js "dir", js "id", js "role", js "title", js "translate"]

def booleanishStringAttributeNames : List JsString :=
  [js "contentEditable", js "draggable", js "spellCheck"]

def booleanAttributeNames : List JsString :=
  [js "allowFullScreen", js "async", js "autoPlay", js "controls", js "default", js "defer",
    js "disabled", js "disablePictureInPicture", js "disableRemotePlayback",
    js "formNoValidate", js "hidden", js "inert", js "itemScope", js "loop", js "noModule",
    js "noValidate", js "open", js "playsInline", js "readOnly", js "required",
    js "reversed", js "scoped", js "seamless"]

def controlledPropsByTag : List (JsString × List JsString) :=
  [(js "input", [js "checked", js "defaultChecked", js "defaultValue", js "name", js "type",
      js "value"]),
    (js "option", [js "selected"]),
    (js "select", [js "defaultValue", js "multiple", js "value"]),
    (js "textarea", [js "defaultValue", js "value"])]

def formActionProps : List JsString :=
  [js "action", js "encType", js "formAction", js "formEncType", js "formMethod",
    js "formTarget", js "method", js "target"]

def documentScopedResourceTags : List JsString :=
  [js "base", js "body", js "head", js "html", js "link", js "meta", js "script", js "style",
    js "title"]

def reservedNonPayloadProps : List JsString :=
  [js "children", js "key", js "ref", js "suppressContentEditableWarning",
    js "suppressHydrationWarning"]

def supportedStyleNames : List JsString :=
  [js "backgroundColor", js "backgroundImage", js "borderWidth", js "color", js "flex",
    js "height", js "lineHeight", js "marginTop", js "msTransition", js "opacity",
    js "paddingLeft", js "WebkitLineClamp", js "width", js "zIndex"]

def unitlessStyleNames : List JsString :=
  [js "flex", js "lineHeight", js "opacity", js "WebkitLineClamp", js "zIndex"]

def isUpperCase (codeUnit : UInt16) : Bool :=
  unit 'A' ≤ codeUnit && codeUnit ≤ unit 'Z'

def isLetter (codeUnit : UInt16) : Bool :=
  isUpperCase codeUnit || (unit 'a' ≤ codeUnit && codeUnit ≤ unit 'z')

def isAttributeNameStart (codeUnit : UInt16) : Bool :=
  isLetter codeUnit || codeUnit = unit '_' || codeUnit = unit ':'

def isAttributeNamePart (codeUnit : UInt16) : Bool :=
  isAttributeNameStart codeUnit || (unit '0' ≤ codeUnit && codeUnit ≤ unit '9') ||
    codeUnit = unit '.' || codeUnit = unit '-'

def isAttributeNameSafe : JsString → Bool
  | [] => false
  | first :: later => isAttributeNameStart first && later.all isAttributeNamePart

def isEventLikeProp : JsString → Bool
  | first :: second :: _ :: _ =>
      (first = unit 'o' || first = unit 'O') && (second = unit 'n' || second = unit 'N')
  | _ => false

def isDataOrAriaAttribute (propName : JsString) : Bool :=
  (js "data-").isPrefixOf propName || (js "aria-").isPrefixOf propName

/-- A name is its own lower case; other letters than these make no safe name. -/
def isLowercaseCustomAttribute (propName : JsString) : Bool :=
  propName.all fun codeUnit => !isUpperCase codeUnit

def getOrdinaryAttribute (propName : JsString) : Option OrdinaryAttribute :=
  match attributeAliases.lookup propName with
  | some name => some ⟨name, .known⟩
  | none =>
      if propName ∈ knownStringAttributeNames then some ⟨propName, .known⟩
      else if propName ∈ booleanishStringAttributeNames then some ⟨propName, .booleanishString⟩
      else if propName ∈ booleanAttributeNames then some ⟨propName, .boolean⟩
      else if isDataOrAriaAttribute propName then some ⟨propName, .dataOrAria⟩
      else if isLowercaseCustomAttribute propName then some ⟨propName, .customLowercase⟩
      else none

def shouldRemoveAttributeValue (value : JsValue) (removeBooleans : Bool) : Bool :=
  match value with
  | .undefined => true
  | .null => true
  | .function _ => true
  | .symbol _ => true
  | .boolean _ => removeBooleans
  | _ => false

variable (heap : JsHeap)

/-- `String(value)`, where it does not throw. -/
def stringOf : JsValue → Option JsString
  | .undefined => some (js "undefined")
  | .null => some (js "null")
  | .boolean value => some (if value then js "true" else js "false")
  | .number value => some value.text
  | .string value => some value
  | .bigint text => some text
  | .symbol _ => none
  | .function _ => none
  | .object id => (heap id).text

def coerceSetAttributeEntry (propName attributeName : JsString) (value : JsValue) : PayloadEntry :=
  match stringOf heap value with
  | some text => .setAttribute propName attributeName text
  | none => .unsupported propName

def isFunctionOrSymbol : JsValue → Bool
  | .function _ => true
  | .symbol _ => true
  | _ => false

def createAttributeEntry (ordinary : OrdinaryAttribute) (propName : JsString)
    (value : JsValue) : PayloadEntry :=
  match ordinary.valueKind with
  | .boolean =>
      if value.isTruthy && !isFunctionOrSymbol value then
        .setAttribute propName ordinary.name []
      else
        .removeAttribute propName ordinary.name
  | .dataOrAria | .booleanishString =>
      if shouldRemoveAttributeValue value false then
        .removeAttribute propName ordinary.name
      else
        coerceSetAttributeEntry heap propName ordinary.name value
  | .known | .customLowercase =>
      if shouldRemoveAttributeValue value true then
        .removeAttribute propName ordinary.name
      else
        coerceSetAttributeEntry heap propName ordinary.name value

def isCustomStyleProperty (styleName : JsString) : Bool :=
  (js "--").isPrefixOf styleName

def isSupportedStyleName (styleName : JsString) : Bool :=
  styleName ∈ supportedStyleNames || isCustomStyleProperty styleName

def isWhitespace (codeUnit : UInt16) : Bool :=
  codeUnit ∈ ([0x9, 0xA, 0xB, 0xC, 0xD, 0x20, 0xA0, 0x1680, 0x2028, 0x2029, 0x202F, 0x205F,
    0x3000, 0xFEFF] : List UInt16) || (0x2000 ≤ codeUnit && codeUnit ≤ 0x200A)

def trim (text : JsString) : JsString :=
  ((text.dropWhile isWhitespace).reverse.dropWhile isWhitespace).reverse

def shouldRemoveStyleValue : JsValue → Bool
  | .undefined => true
  | .null => true
  | .boolean _ => true
  | .string value => value = []
  | _ => false

def coerceStyleValue (styleName : JsString) : JsValue → Option JsString
  | .number value =>
      if !value.isFinite then
        none
      else if !value.isZero && !isCustomStyleProperty styleName &&
          !decide (styleName ∈ unitlessStyleNames) then
        some (value.text ++ js "px")
      else
        some value.text
  | .string value => some (if isCustomStyleProperty styleName then value else trim value)
  | _ => none

def createStyleValueEntryOrUnsupported (propName styleName : JsString) (value : JsValue) :
    PayloadEntry :=
  if !isSupportedStyleName styleName then
    .unsupported propName
  else if shouldRemoveStyleValue value then
    .removeStyle propName styleName
  else
    match coerceStyleValue styleName value with
    | some text => .setStyle propName styleName text
    | none => .unsupported propName

def createRemoveStyleEntryOrUnsupported (propName styleName : JsString) : PayloadEntry :=
  if !isSupportedStyleName styleName then
    .unsupported propName
  else
    .removeStyle propName styleName

def stylesOf : JsValue → Option JsProperties
  | .object id => some (heap id).properties
  | _ => none

def createStyleEntries (propName : JsString) (value previousValue : JsValue) : List PayloadEntry :=
  if !value.isNullish && (stylesOf heap value).isNone then
    [.unsupported propName]
  else if !previousValue.isNullish && (stylesOf heap previousValue).isNone then
    [.unsupported propName]
  else
    let previousStyles := (stylesOf heap previousValue).getD .empty
    let currentStyles := (stylesOf heap value).getD .empty
    (previousStyles.keys.filter fun styleName => !currentStyles.hasOwn styleName).map
        (createRemoveStyleEntryOrUnsupported propName) ++
      (currentStyles.own.filter fun style => !(previousStyles.get style.1).strictEquals style.2).map
        fun style => createStyleValueEntryOrUnsupported propName style.1 style.2

def createDangerousHtmlEntry (propName : JsString) (value : JsValue) (props : JsProperties) :
    PayloadEntry :=
  match value with
  | .undefined => .nonPayload propName true
  | .null => .nonPayload propName true
  | .object id =>
      if !(heap id).properties.hasOwn (js "__html") then
        .unsupported propName
      else
        let html := (heap id).properties.get (js "__html")
        if html.isNullish then
          .nonPayload propName true
        else if !(props.get (js "children")).isNullish then
          .unsupported propName
        else
          match html with
          | .string text => .setInnerHTML propName text
          | _ => .unsupported propName
  | _ => .unsupported propName

/-- A tag that names an inherited property finds it instead of a set. -/
def isControlledFormProp (tag propName : JsString) : Except DomHostError Bool :=
  match controlledPropsByTag.lookup tag with
  | some controlledProps => .ok (propName ∈ controlledProps)
  | none => if inheritedProperty tag = .undefined then .ok false else .error .notAFunction

def createOrdinaryEntries (tag propName : JsString) (value : JsValue) :
    Except DomHostError (List PayloadEntry) :=
  match isControlledFormProp tag propName with
  | .error error => .error error
  | .ok true => .ok [.unsupported propName]
  | .ok false =>
      if propName ∈ formActionProps then
        .ok [.unsupported propName]
      else
        match getOrdinaryAttribute propName with
        | none => .ok [.unsupported propName]
        | some ordinary =>
            if isAttributeNameSafe ordinary.name then
              .ok [createAttributeEntry heap ordinary propName value]
            else
              .ok [.unsupported propName]

/-- The entries for a prop.  A prop that names an inherited property finds it among the
reserved ones, but without the texts of a reserved prop. -/
def createEntries (tag propName : JsString) (value previousValue : JsValue)
    (props : JsProperties) : Except DomHostError (List PayloadEntry) :=
  if propName ∈ reservedNonPayloadProps then
    .ok [.nonPayload propName true]
  else if inheritedProperty propName ≠ .undefined then
    .ok [.nonPayload propName false]
  else if isEventLikeProp propName then
    .ok [.nonPayload propName true]
  else if propName = js "innerHTML" then
    .ok [.unsupported propName]
  else if tag ∈ documentScopedResourceTags then
    .ok [.unsupported propName]
  else if propName = js "style" then
    .ok (createStyleEntries heap propName value previousValue)
  else if propName = js "dangerouslySetInnerHTML" then
    .ok [createDangerousHtmlEntry heap propName value props]
  else
    createOrdinaryEntries heap tag propName value

structure PropChange where
  propName : JsString
  value : JsValue
  previousValue : JsValue

/-- The props that go. -/
def removedProps (previousProps currentProps : JsProperties) : List PropChange :=
  previousProps.own.filterMap fun (propName, previousValue) =>
    if !previousValue.isNullish && !currentProps.hasOwn propName then
      some ⟨propName, .null, previousValue⟩
    else
      none

def changedProps (previousProps currentProps : JsProperties) : List PropChange :=
  currentProps.own.filterMap fun (propName, nextValue) =>
    let previousValue := previousProps.get propName
    if !nextValue.strictEquals previousValue &&
        (!nextValue.isNullish || !previousValue.isNullish) then
      some ⟨propName, nextValue, previousValue⟩
    else
      none

def diffDomPropertyPayload (tag : JsString) (lastProps nextProps : Option JsProperties) :
    Except DomHostError (List PayloadEntry) := do
  let previousProps := lastProps.getD .empty
  let currentProps := nextProps.getD .empty
  let changes := removedProps previousProps currentProps ++ changedProps previousProps currentProps
  let entries ← changes.mapM fun change =>
    createEntries heap tag change.propName change.value change.previousValue currentProps
  pure entries.flatten

end PropertyPayload

/-- A host node: its attributes, its inline styles, which are empty where there are none,
and what was last assigned to `innerHTML`. -/
structure HostNode where
  attributes : JsString → Option JsString
  styles : JsString → JsString
  innerHTML : Option JsString

namespace HostNode

open PropertyPayload

/-- Whether an entry may be applied; a payload is checked as a whole before that. -/
def admitEntry (index : Nat) : PayloadEntry → Except DomHostError Unit
  | .setAttribute propName attributeName _ =>
      if isAttributeNameSafe attributeName && propName ≠ [] then
        .ok ()
      else
        .error (.invalidPayloadEntry index)
  | .removeAttribute propName attributeName =>
      if isAttributeNameSafe attributeName && propName ≠ [] then
        .ok ()
      else
        .error (.invalidPayloadEntry index)
  | .setStyle propName _ _ =>
      if propName = js "style" then .ok () else .error (.invalidPayloadEntry index)
  | .removeStyle propName _ =>
      if propName = js "style" then .ok () else .error (.invalidPayloadEntry index)
  | .setInnerHTML propName _ =>
      if propName = js "dangerouslySetInnerHTML" then
        .ok ()
      else
        .error (.invalidPayloadEntry index)
  | .nonPayload _ hasMetadata =>
      if hasMetadata then .ok () else .error (.invalidPayloadEntry index)
  | .unsupported _ => .error (.blockedPayloadEntry index)

def applyEntry (node : HostNode) : PayloadEntry → HostNode
  | .setAttribute _ attributeName value =>
      { node with attributes := fun name =>
          if name = attributeName then some value else node.attributes name }
  | .removeAttribute _ attributeName =>
      { node with attributes := fun name =>
          if name = attributeName then none else node.attributes name }
  | .setStyle _ styleName value =>
      { node with styles := fun name => if name = styleName then value else node.styles name }
  | .removeStyle _ styleName =>
      { node with styles := fun name => if name = styleName then [] else node.styles name }
  | .setInnerHTML _ value => { node with innerHTML := some value }
  | .nonPayload _ _ => node
  | .unsupported _ => node

def applyAdmittedDomPropertyPayload (node : HostNode) (payload : List PayloadEntry) :
    Except DomHostError HostNode := do
  payload.zipIdx.forM fun (entry, index) => admitEntry index entry
  pure (payload.foldl applyEntry node)

def commitDomPropertyUpdate (heap : JsHeap) (node : HostNode) (tag : JsString)
    (lastProps nextProps : Option JsProperties) : Except DomHostError HostNode := do
  let payload ← diffDomPropertyPayload heap tag lastProps nextProps
  node.applyAdmittedDomPropertyPayload payload

open ErrorState List

section Styles

variable (heap : JsHeap) (tag : JsString)

/-- Commit one props object of a node after another. -/
def commitDomPropertyUpdates :
    HostNode → Option JsProperties → List (Option JsProperties) → Except DomHostError HostNode
  | node, _, [] => .ok node
  | node, last, next :: later => do
    let after ← node.commitDomPropertyUpdate heap tag last next
    commitDomPropertyUpdates after next later

def styleText (styleName : JsString) (value : JsValue) : JsString :=
  if shouldRemoveStyleValue value then [] else (coerceStyleValue styleName value).getD []

/-- What a value of the prop says of a style, with nothing for a style that is not there. -/
def textIn (value : JsValue) (styleName : JsString) : JsString :=
  styleText styleName (((stylesOf heap value).getD .empty).get styleName)

/-- The styles of a node are those of its props. -/
def Shows (node : HostNode) (props : Option JsProperties) : Prop :=
  ∀ name, node.styles name = textIn heap ((props.getD .empty).get (js "style")) name

/-- What an entry does to a style. -/
def Leaves (name : JsString) (entry : PayloadEntry) : Prop :=
  ∀ node : HostNode, (node.applyEntry entry).styles name = node.styles name

def Sets (name text : JsString) (entry : PayloadEntry) : Prop :=
  ∀ node : HostNode, (node.applyEntry entry).styles name = text

/-- A payload takes a style from one text to another. -/
def Takes (name first second : JsString) (payload : List PayloadEntry) : Prop :=
  (∀ entry ∈ payload, Sets name second entry ∨ Leaves name entry) ∧
    (first = second ∨ ∃ entry ∈ payload, Sets name second entry)

variable {heap tag} {node after : HostNode} {last next : Option JsProperties}
  {payload : List PayloadEntry} {name text propName : JsString} {value other : JsValue}
  {props before now : JsProperties}

theorem styles_foldl (takes : Takes name (node.styles name) text payload) :
    (payload.foldl applyEntry node).styles name = text := by
  obtain ⟨each, set⟩ := takes
  induction payload generalizing node with
  | nil => simpa using set
  | cons entry rest ih =>
    refine ih (fun other member => each other (.tail _ member)) ?_
    have first := each entry mem_cons_self
    grind [Sets, Leaves]

def styleEntry (style : JsString × JsValue) : PayloadEntry :=
  createStyleValueEntryOrUnsupported (js "style") style.1 style.2

theorem sets_or_leaves {style : JsString × JsValue}
    (supported : styleEntry style ≠ .unsupported (js "style")) :
    if name = style.1 then Sets name (styleText style.1 style.2) (styleEntry style)
    else Leaves name (styleEntry style) := by
  unfold styleEntry createStyleValueEntryOrUnsupported at supported ⊢
  unfold styleText
  split_ifs at supported ⊢ <;> simp_all [applyEntry, Sets, Leaves]
  all_goals split at supported <;> simp_all

theorem eq_of_strictEquals (same : value.strictEquals other = true) :
    value = other ∨ ∃ one two, value = .number (.zero one) ∧ other = .number (.zero two) := by
  unfold JsValue.strictEquals JsNumber.strictEquals at same
  grind

theorem get_of_mem (member : (name, value) ∈ props.own) : props.get name = value := by
  have found : ∀ items : List (JsString × JsValue), (items.map Prod.fst).Nodup →
      (name, value) ∈ items → items.lookup name = some value := fun items => by
    induction items with grind
  rw [JsProperties.get, found _ props.distinct member]
  rfl

theorem get_of_not_mem (absent : name ∉ props.keys) : props.get name = inheritedProperty name := by
  have missing : props.own.lookup name = none :=
    lookup_eq_none_iff.mpr fun style member => by grind [JsProperties.keys]
  rw [JsProperties.get, missing]
  rfl

theorem styleText_get (absent : name ∉ props.keys) : styleText name (props.get name) = [] := by
  rw [get_of_not_mem absent, inheritedProperty]
  split_ifs <;> rfl

/-- The styles that go or change, with their next value. -/
def styleChanges (before now : JsProperties) : List (JsString × JsValue) :=
  (before.keys.filter fun name => !now.hasOwn name).map (·, .null) ++
    now.own.filter fun style => !(before.get style.1).strictEquals style.2

theorem mem_styleChanges : (name, value) ∈ styleChanges before now ↔
    (name ∈ before.keys ∧ name ∉ now.keys ∧ .null = value) ∨
      ((name, value) ∈ now.own ∧ (before.get name).strictEquals value = false) := by
  simp [styleChanges, JsProperties.hasOwn, and_assoc]

theorem styleText_of_mem (changed : (name, value) ∈ styleChanges before now) :
    styleText name value = styleText name (now.get name) := by
  rcases mem_styleChanges.mp changed with ⟨-, gone, rfl⟩ | ⟨member, -⟩
  · exact (styleText_get gone).symm
  · rw [get_of_mem member]

theorem styleText_of_not_mem (unchanged : ∀ value, (name, value) ∉ styleChanges before now) :
    styleText name (before.get name) = styleText name (now.get name) := by
  by_cases own : name ∈ now.keys
  · obtain ⟨style, member, rfl⟩ := mem_map.mp own
    have same := mt (fun different => mem_styleChanges.mpr (.inr ⟨member, different⟩)) (unchanged _)
    rw [get_of_mem member]
    rcases eq_of_strictEquals (Bool.of_not_eq_false same) with equal | ⟨one, two, first, second⟩
    · rw [equal]
    · simp [first, second, styleText, shouldRemoveStyleValue, coerceStyleValue,
        JsNumber.isFinite, JsNumber.isZero, JsNumber.text]
  · rw [styleText_get own]
    exact styleText_get fun earlier =>
      unchanged .null (mem_styleChanges.mpr (.inl ⟨earlier, own, rfl⟩))

abbrev propChanges (before now : JsProperties) : List PropChange :=
  removedProps before now ++ changedProps before now

section Plain

variable (plain : inheritedProperty propName = .undefined)
include plain

theorem textIn_get (absent : propName ∉ props.keys) :
    textIn heap (props.get propName) = textIn heap .null := by
  rw [get_of_not_mem absent, plain]
  rfl

theorem textIn_of_change {change : PropChange} (changed : change ∈ propChanges before now)
    (named : change.propName = propName) :
    textIn heap change.value = textIn heap (now.get propName) ∧
      change.previousValue = before.get propName := by
  simp only [propChanges, removedProps, changedProps, mem_append, mem_filterMap, Prod.exists] at changed
  grind [get_of_mem, JsProperties.hasOwn, textIn_get]

theorem textIn_of_unchanged
    (unchanged : ∀ change ∈ propChanges before now, change.propName ≠ propName) :
    textIn heap (before.get propName) = textIn heap (now.get propName) := by
  have ofNullish : ∀ {value : JsValue}, value.isNullish → textIn heap value = textIn heap .null := by
    rintro (_ | _) <;> grind [textIn, stylesOf, JsValue.isNullish]
  simp only [propChanges, removedProps, changedProps, mem_append, mem_filterMap, Prod.exists]
    at unchanged
  by_cases own : propName ∈ now.keys
  · obtain ⟨prop, member, rfl⟩ := mem_map.mp own
    have kept := mt (unchanged ⟨prop.1, prop.2, before.get prop.1⟩) (not_not.mpr rfl)
    rw [get_of_mem member]
    by_cases same : prop.2.strictEquals (before.get prop.1) = true
    · rcases eq_of_strictEquals same with equal | ⟨one, two, first, second⟩
      · rw [equal]
      · rw [first, second]
        rfl
    · grind
  · rw [textIn_get plain own]
    by_cases earlier : propName ∈ before.keys
    · obtain ⟨prop, member, rfl⟩ := mem_map.mp earlier
      have kept := mt (unchanged ⟨prop.1, .null, prop.2⟩) (not_not.mpr rfl)
      rw [get_of_mem member]
      grind [JsProperties.hasOwn]
    · exact textIn_get plain earlier

end Plain

theorem leaves_of_other (created : createEntries heap tag propName value other props = .ok payload)
    (notStyle : propName ≠ js "style") : ∀ entry ∈ payload, Leaves name entry := by
  have ofOrdinary : ∀ ordinary, Leaves name (createAttributeEntry heap ordinary propName value) :=
    fun ordinary => by
      unfold createAttributeEntry coerceSetAttributeEntry
      grind [Leaves, applyEntry]
  have ofHtml : Leaves name (createDangerousHtmlEntry heap propName value props) := by
    unfold createDangerousHtmlEntry
    grind [Leaves, applyEntry]
  unfold createEntries createOrdinaryEntries at created
  split_ifs at created <;> grind [Leaves, applyEntry]

theorem takes_of_change {change : PropChange}
    (changed : change ∈ propChanges before now)
    (isStyle : change.propName = js "style")
    (created : createEntries heap tag change.propName change.value change.previousValue now =
      .ok payload)
    (supported : .unsupported (js "style") ∉ payload) :
    Takes name (textIn heap (before.get (js "style")) name)
      (textIn heap (now.get (js "style")) name) payload := by
  obtain ⟨isNext, isLast⟩ := @textIn_of_change heap _ _ _ rfl _ changed isStyle
  rw [isStyle] at created
  rw [← isNext, ← isLast]
  change (if tag ∈ documentScopedResourceTags then _ else
    Except.ok (createStyleEntries heap (js "style") _ _)) = _ at created
  unfold createStyleEntries at created
  split_ifs at created <;> cases created
  iterate 3 cases supported mem_cons_self
  rw [show _ ++ _ = map styleEntry (styleChanges _ _) from by
    rw [styleChanges, map_append, map_map]
    rfl] at supported ⊢
  have each := fun style member => @sets_or_leaves name style fun refused =>
    supported (refused ▸ mem_map_of_mem member)
  unfold textIn
  constructor
  · rintro _ member
    obtain ⟨style, changed, rfl⟩ := mem_map.mp member
    have isSet := each style changed
    split_ifs at isSet with isName
    · subst isName
      exact .inl (styleText_of_mem changed ▸ isSet)
    · exact .inr isSet
  · refine or_iff_not_imp_right.mpr fun untouched => styleText_of_not_mem fun value changed => ?_
    have isSet := each (name, value) changed
    rw [if_pos rfl, styleText_of_mem changed] at isSet
    exact untouched ⟨_, mem_map_of_mem changed, isSet⟩

theorem Shows.update (shown : node.Shows heap last)
    (ran : node.commitDomPropertyUpdate heap tag last next = .ok after) : after.Shows heap next := by
  obtain ⟨_, diff, ran⟩ := bind_eq_ok_iff.mp ran
  obtain ⟨blocks, created, ⟨⟩⟩ := bind_eq_ok_iff.mp diff
  obtain ⟨_, admitted, ⟨⟩⟩ := bind_eq_ok_iff.mp ran
  rw [forM_eq_ok_iff] at admitted
  have isEntry := @mem_flatten_iff_of_mapM_ok _ _ _ _ _ _ created
  have supported : .unsupported (js "style") ∉ blocks.flatten := fun member => by
    obtain ⟨index, member⟩ := mem_iff_getElem?.mp member
    cases admitted (.unsupported (js "style"), index) (by simpa [mem_zipIdx_iff_getElem?])
  intro name
  have takes := fun change changed isStyle block asked =>
    @takes_of_change heap tag block name _ _ change changed isStyle asked fun refused =>
      supported (isEntry.mpr ⟨change, changed, block, asked, refused⟩)
  refine styles_foldl ⟨fun entry member => ?_, ?_⟩
  · obtain ⟨change, changed, block, asked, member⟩ := isEntry.mp member
    by_cases isStyle : change.propName = js "style"
    · exact (takes change changed isStyle block asked).1 entry member
    · exact .inr (leaves_of_other asked isStyle entry member)
  · rw [shown name]
    by_cases styled : ∃ change ∈ propChanges (last.getD .empty) (next.getD .empty),
        change.propName = js "style"
    · obtain ⟨change, changed, isStyle⟩ := styled
      obtain ⟨index, found⟩ := mem_iff_getElem?.mp changed
      obtain ⟨block, -, asked⟩ := exists_value_of_mapM_ok created found
      refine (takes change changed isStyle block asked).2.imp_right ?_
      rintro ⟨entry, member, sets⟩
      exact ⟨entry, isEntry.mpr ⟨change, changed, block, asked, member⟩, sets⟩
    · exact .inl (congrFun (textIn_of_unchanged rfl fun change changed isStyle =>
        styled ⟨change, changed, isStyle⟩) name)

/-- Commits one after another leave a node with the styles of the last props, as if it had none
before. -/
theorem styles_of_commits {updates : List (Option JsProperties)} (shown : node.Shows heap last)
    (ran : node.commitDomPropertyUpdates heap tag last updates = .ok after) :
    after.Shows heap (updates.getLastD last) := by
  induction updates generalizing node last with
  | nil =>
    cases ran
    exact shown
  | cons next later ih =>
    obtain ⟨between, updated, ran⟩ := bind_eq_ok_iff.mp ran
    rw [getLastD_cons]
    exact ih (shown.update updated) ran

theorem styles_of_commits_sample :
    ∃ heap props after, (heap 0).properties.own = [(js "width", .string (js "1px"))] ∧
      props.own = [(js "style", .object 0)] ∧
      commitDomPropertyUpdates heap (js "p") ⟨fun _ => none, fun _ => [], none⟩ none
        [none, some props] = .ok after ∧ after.Shows heap (some props) :=
  ⟨fun _ => ⟨⟨[_], pairwise_singleton _ _⟩, none⟩, ⟨[_], pairwise_singleton _ _⟩, _, rfl, rfl, rfl,
    @styles_of_commits _ (js "p") _ _ none [none, some _] (fun _ => (styleText_get not_mem_nil).symm) rfl⟩

end Styles

end HostNode

end FastReact
