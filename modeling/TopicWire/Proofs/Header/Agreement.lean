import TopicWire.Header
import TopicWire.Proofs.MessageType.FromText
import TopicWire.Proofs.Wire.Codec

/-!
# What agreeing digests promise

Two types whose digests agree were compiled from the same text, unless two texts share a digest.
The text fixes the fields of the type itself, so one type can be read as the other where the types
inside them can (`MessageType.readableAs_of_text`). It does not fix the types inside them: these are
found by name, and each side finds its own.
-/

namespace TopicWire

def Element.ReadableAs (e e' : Element) : Prop :=
  ∀ ⦃v path bytes⦄, e.write v path = .ofBytes bytes → ∃ v', ∀ path', e'.write v' path' = .ofBytes bytes

/-- Every body of a message of the first type is the body of a message of the second. -/
def MessageType.ReadableAs (a b : MessageType) : Prop :=
  ∀ ⦃m body⦄, a.writeAt m "" = .ofBytes body → ∃ received, b.writeAt received "" = .ofBytes body

theorem Element.readableAs_message {a b : MessageType} (inner : a.ReadableAs b) :
    (Element.message a).ReadableAs (.message b) := by
  intro v path bytes written
  cases v with
  | message m =>
    rw [write] at written
    obtain ⟨received, again⟩ := inner (MessageType.writeAt_ok written "").1
    refine ⟨.message received, fun path' => ?_⟩
    rw [write]
    exact (MessageType.writeAt_ok again path').1
  | _ => simp [write] at written

theorem Element.readableAs_refl (e : Element) : e.ReadableAs e :=
  fun v _ _ written => ⟨v, fun path' => (e.sized written path').1⟩

theorem writeItems_readableAs {e e' : Element} (inner : e.ReadableAs e') {path : String} {index : Nat}
    {items : List Value} {bytes : Bytes}
    (written : writeItems e.write path index items = .ofBytes bytes) :
    ∃ items', items'.length = items.length ∧
      ∀ path' index', writeItems e'.write path' index' items' = .ofBytes bytes := by
  induction items generalizing index bytes with
  | nil => exact ⟨[], rfl, fun _ _ => written⟩
  | cons v vs ih =>
    obtain ⟨xs, ys, first, others, rfl⟩ := writeItems_cons_iff.mp written
    obtain ⟨v', write⟩ := inner first
    obtain ⟨rest, length, writeRest⟩ := ih others
    refine ⟨v' :: rest, by rw [List.length_cons, List.length_cons, length], fun path' index' => ?_⟩
    exact writeItems_cons_iff.mpr ⟨xs, ys, write _, writeRest _ _, rfl⟩

/-! ### Two compilations of the same lines -/

namespace FieldLine

variable {line : FieldLine} {id id' : String} {package package' : Option String}
  {lookup lookup' : String → Option MessageType} {taken taken' : List String} {f g : Field}

theorem kind?_alike {e e' : Element} {arity arity' : Arity}
    (first : line.kind? package lookup = some (e, arity))
    (second : line.kind? package' lookup' = some (e', arity')) :
    arity = arity' ∧ (e = e' ∨ ∃ x y, e = .message x ∧ e' = .message y) := by
  obtain ⟨base, brackets, split, -, rfl, one⟩ := kind?_eq_some_iff.mp first
  obtain ⟨base', brackets', split', -, rfl, other⟩ := kind?_eq_some_iff.mp second
  cases split.symm.trans split'
  refine ⟨rfl, ?_⟩
  rcases one with ⟨p, primitive, rfl⟩ | ⟨named, x, -, rfl⟩
  · rcases other with ⟨p', primitive', rfl⟩ | ⟨named', -⟩
    · cases primitive.symm.trans primitive'
      exact .inl rfl
    · cases primitive.symm.trans named'
  · rcases other with ⟨p', primitive', -⟩ | ⟨-, y, -, rfl⟩
    · cases named.symm.trans primitive'
    · exact .inr ⟨x, y, rfl, rfl⟩

theorem compile_isConstant (made : line.compile id package lookup taken = .ok f) :
    f.constant.isSome = line.literal.isSome := by
  obtain ⟨_, _, _, _, bare, literal⟩ := compile_ok made
  cases given : line.literal with
  | none => rw [bare given]; rfl
  | some text =>
    obtain ⟨value, _, constant⟩ := literal text given
    rw [constant]
    rfl

theorem compile_alike (first : line.compile id package lookup taken = .ok f)
    (second : line.compile id' package' lookup' taken' = .ok g) :
    f.line = g.line ∧ f.arity = g.arity ∧ f.constant.isSome = g.constant.isSome ∧
      (f.element = g.element ∨ ∃ x y, f.element = .message x ∧ g.element = .message y) := by
  obtain ⟨kind, sameLine, _⟩ := compile_ok first
  obtain ⟨kind', sameLine', _⟩ := compile_ok second
  obtain ⟨arity, element⟩ := kind?_alike kind kind'
  refine ⟨by rw [sameLine, sameLine'], arity, ?_, element⟩
  rw [compile_isConstant first, compile_isConstant second]

end FieldLine

namespace Field

variable {f g : Field} {fs gs : List Field} {m : Message} {path : String} {bytes : Bytes}

theorem writeIn_readableAs (arity : f.arity = g.arity)
    (constant : f.constant.isSome = g.constant.isSome) (inner : f.element.ReadableAs g.element)
    (written : f.writeIn m path = .ofBytes bytes) :
    ∃ v, ∀ received : Message, received.get? g.accessor = some v →
      ∀ path', g.writeIn received path' = .ofBytes bytes := by
  rcases f.constant_or_one_or_array with literal | ⟨sent, one⟩ | ⟨sent, array⟩
  · rw [writeIn_constant literal] at written
    -- Nothing is sent of a constant, so any value will do.
    refine ⟨.bool false, fun received _ path' => ?_⟩
    rw [writeIn_constant (constant.symm.trans literal), written]
  · have sent' : g.constant = none := by simpa [sent] using constant.symm
    obtain ⟨v, _, write⟩ := (writeIn_one_iff sent one).mp written
    obtain ⟨v', again⟩ := inner write
    refine ⟨v', fun received held path' => ?_⟩
    exact (writeIn_one_iff sent' (arity.symm.trans one)).mpr ⟨v', held, again _⟩
  · have sent' : g.constant = none := by simpa [sent] using constant.symm
    obtain ⟨items, ys, _, allowed, small, write, rfl⟩ := (writeIn_array_iff sent array).mp written
    obtain ⟨items', length, again⟩ := writeItems_readableAs inner write
    rw [arity] at allowed array
    rw [← length] at allowed small ⊢
    refine ⟨.array items', fun received held path' => ?_⟩
    exact (writeIn_array_iff sent' array).mpr ⟨items', ys, held, allowed, small, again _ _, rfl⟩

theorem writeAll_readableAs {id id' : String} {package package' : Option String}
    {lookup lookup' : String → Option MessageType} {taken taken' : List String} {lines : List FieldLine}
    (first : FieldLine.compileAll id package lookup taken lines = .ok fs)
    (second : FieldLine.compileAll id' package' lookup' taken' lines = .ok gs)
    (inner : ∀ f ∈ fs, ∀ g ∈ gs, f.line = g.line → ∀ x y, f.element = .message x →
      g.element = .message y → x.ReadableAs y)
    (written : writeAll fs m path = .ofBytes bytes) :
    ∃ entries : List (String × Value), entries.map (·.1) = gs.map (·.accessor) ∧
      ∀ received : Message, (∀ key v, (key, v) ∈ entries → received.get? key = some v) →
        ∀ path', writeAll gs received path' = .ofBytes bytes := by
  -- The two lists of fields have only their lines in common, so the induction is on these.
  induction lines generalizing taken taken' fs gs bytes with
  | nil =>
    cases first
    cases second
    refine ⟨[], rfl, fun received _ path' => ?_⟩
    rw [writeAll] at written ⊢
    exact written
  | cons line lines ih =>
    obtain ⟨f, fs, rfl, made, restMade⟩ := FieldLine.compileAll_cons first
    obtain ⟨g, gs, rfl, made', restMade'⟩ := FieldLine.compileAll_cons second
    obtain ⟨xs, ys, write, writeRest, rfl⟩ := writeAll_cons_iff.mp written
    obtain ⟨same, arity, constant, element⟩ := FieldLine.compile_alike made made'
    have readable : f.element.ReadableAs g.element := by
      rcases element with same | ⟨x, y, message, message'⟩
      · rw [same]
        exact g.element.readableAs_refl
      · rw [message, message']
        exact Element.readableAs_message
          (inner f List.mem_cons_self g List.mem_cons_self same x y message message')
    obtain ⟨v, again⟩ := writeIn_readableAs arity constant readable write
    obtain ⟨rest, keys, againRest⟩ := ih restMade restMade'
      (fun f member g member' => inner f (List.mem_cons_of_mem _ member) g (List.mem_cons_of_mem _ member'))
      writeRest
    refine ⟨(g.accessor, v) :: rest, by rw [List.map_cons, List.map_cons, keys],
      fun received held path' => writeAll_cons_iff.mpr ⟨xs, ys, ?_, ?_, rfl⟩⟩
    · exact again received (held _ _ List.mem_cons_self) path'
    · exact againRest received (fun key v member => held key v (List.mem_cons_of_mem _ member)) path'

end Field

namespace MessageType

variable {a b : MessageType}

/-- A type can be read as another one from the same text if the types inside it can. -/
theorem readableAs_of_text (madeA : a.FromText) (madeB : b.FromText)
    (text : a.definition = b.definition)
    (inner : ∀ f ∈ a.fields, ∀ g ∈ b.fields, f.line = g.line → ∀ x y, f.element = .message x →
      g.element = .message y → x.ReadableAs y) : a.ReadableAs b := by
  obtain ⟨_, _, lines, parsed, compiled⟩ := madeA.lines
  obtain ⟨_, _, lines', parsed', compiled'⟩ := madeB.lines
  obtain rfl : lines = lines' := by
    rw [text] at parsed
    exact Except.ok.inj (parsed.symm.trans parsed')
  intro m body written
  rw [writeAt_eq] at written
  obtain ⟨entries, keys, again⟩ := Field.writeAll_readableAs compiled compiled' inner written
  have distinct : (entries.map (·.1)).Nodup := by
    rw [keys]
    exact (FieldLine.compileAll_accessors compiled').1
  refine ⟨⟨"", Keyed.ofList entries⟩, ?_⟩
  rw [writeAt_eq]
  refine again _ (fun key v member => ?_) ""
  show (Keyed.ofList entries).lookup key = some v
  rw [Keyed.lookup_ofList distinct, Keyed.lookup_eq_some distinct member]

theorem ReadableAs.decodeBody (readable : a.ReadableAs b) (made : b.Compiled)
    (bodies : b.ItemsHaveBodies) {m : Message} {body : Bytes}
    (sent : a.encodeBody m [] = (body, .ok ())) :
    ∃ received, b.decodeBody body = .ok received ∧
      ∀ out, b.encodeBody received out = (out ++ body, .ok ()) := by
  obtain ⟨received, written⟩ := readable (encodeBody_ok_iff.mp sent)
  have decoded := decodeBody_written written (admits_of_itemsHaveBodies bodies received 0)
  obtain ⟨again, _⟩ := written_of_decodeBody made decoded
  exact ⟨_, decoded, fun out => encodeBody_ok_iff.mpr again⟩

end MessageType

theorem schemaDigest_ne_wildcard (text : String) : schemaDigest text ≠ Header.wildcard := by
  intro same
  have digits : Text.Hex.toBytes? (schemaDigest text) = some (Md5.digest (Bytes.ofText text)) :=
    Text.Hex.toBytes?_ofBytes _
  rw [same] at digits
  cases digits

namespace Header

variable {h : Header} {a b : MessageType}

theorem agrees_withType_iff (madeA : a.FromText) (madeB : b.FromText) :
    (h.withType a).agrees b.digest = true ↔ schemaDigest a.definition = schemaDigest b.definition := by
  have own := schemaDigest_ne_wildcard a.definition
  have other := schemaDigest_ne_wildcard b.definition
  rw [← madeA.digest_eq] at own ⊢
  rw [← madeB.digest_eq] at other ⊢
  simp [agrees, withType, own, other]

/-- If the digests of two types agree and their texts do not collide, every body that one side sends
is decoded by the other, to a message with the same body, as long as that holds of the types that the
two sides found for the fields. -/
theorem sent_received_of_agrees (madeA : a.FromText) (madeB : b.FromText)
    (agreed : (h.withType a).agrees b.digest = true)
    (noCollision : schemaDigest a.definition = schemaDigest b.definition → a.definition = b.definition)
    (inner : ∀ f ∈ a.fields, ∀ g ∈ b.fields, f.line = g.line → ∀ x y, f.element = .message x →
      g.element = .message y → x.ReadableAs y)
    (bodies : b.ItemsHaveBodies) {m : Message} {body : Bytes}
    (sent : a.encodeBody m [] = (body, .ok ())) :
    ∃ received, b.decodeBody body = .ok received ∧
      ∀ out, b.encodeBody received out = (out ++ body, .ok ()) := by
  have text := noCollision ((agrees_withType_iff madeA madeB).mp agreed)
  have readable := MessageType.readableAs_of_text madeA madeB text inner
  exact readable.decodeBody madeB.compiled bodies sent

/-! ### Two types of the name Point -/

/-- Points: a field `x` of a primitive type. -/
def pointOf (p : Primitive) : MessageType :=
  ⟨"geo/Point", some "geo", "Point", schemaDigest (p.name ++ " x"), p.name ++ " x",
    [⟨⟨"x", p.name, none, 1⟩, "x", .primitive p, .one, none⟩]⟩

/-- Marks: `Point p`, with the type of points that was found. -/
def markOf (point : MessageType) : MessageType :=
  ⟨"geo/Mark", some "geo", "Mark", schemaDigest "Point p", "Point p",
    [⟨⟨"p", "Point", none, 1⟩, "p", .message point, .one, none⟩]⟩

theorem pointOf_fromText (p : Primitive) : (pointOf p).FromText := by
  have made : MessageType.ofText "geo/Point" (p.name ++ " x") (fun _ => none) = .ok (pointOf p) := by
    cases p <;> rfl
  refine ⟨_, _, _, fun _ _ found => ?_, made⟩
  cases found

theorem markOf_fromText {point : MessageType} (made : point.FromText) : (markOf point).FromText := by
  have compiled : MessageType.ofText "geo/Mark" "Point p"
      (fun id => if id = "geo/Point" then some point else none) = .ok (markOf point) := by rfl
  refine ⟨_, _, _, fun id inner found => ?_, compiled⟩
  split at found
  · exact Option.some.inj found ▸ made.compiled
  · cases found

theorem markOf_text (p q : MessageType) : (markOf p).definition = (markOf q).definition := rfl

theorem markOf_agrees {p q : MessageType} (madeP : p.FromText) (madeQ : q.FromText) :
    (h.withType (markOf p)).agrees (markOf q).digest = true := by
  rw [agrees_withType_iff (markOf_fromText madeP) (markOf_fromText madeQ)]
  rw [markOf_text p q]

/-- The digest alone promises nothing of the types inside: a byte above one that is sent as a point is
no boolean. -/
theorem agrees_not_sufficient :
    ¬ ∀ a b : MessageType, a.FromText → b.FromText →
      (({} : Header).withType a).agrees b.digest = true → a.digest ≠ wildcard → b.digest ≠ wildcard →
      ∀ m body, a.encodeBody m [] = (body, .ok ()) →
        ∃ received, b.decodeBody body = .ok received ∧ b.encodeBody received [] = (body, .ok ()) := by
  intro promised
  have sent : (markOf (pointOf .uint8)).encodeBody
      ⟨"", [("p", .message ⟨"", [("x", .uint8 2)]⟩)]⟩ [] = ([2], .ok ()) := by rfl
  have refused : (markOf (pointOf .bool)).decodeBody [2] = .error (.invalidBool "p.x" 2) := by
    rfl
  have sender := markOf_fromText (pointOf_fromText .uint8)
  have receiver := markOf_fromText (pointOf_fromText .bool)
  obtain ⟨received, decoded, _⟩ := promised _ _ sender receiver
    (markOf_agrees (pointOf_fromText .uint8) (pointOf_fromText .bool))
    (schemaDigest_ne_wildcard _) (schemaDigest_ne_wildcard _) _ _ sent
  rw [refused] at decoded
  cases decoded

theorem flagPoint_readableAs_bytePoint :
    (pointOf .bool).ReadableAs (pointOf .uint8) := by
  intro m body written
  rw [MessageType.writeAt_eq] at written
  obtain ⟨xs, ys, field, others, rfl⟩ := Field.writeAll_cons_iff.mp written
  rw [Field.writeAll] at others
  obtain rfl := Written.nothing_eq_ofBytes.mp others
  obtain ⟨v, _, write⟩ := (Field.writeIn_one_iff rfl rfl).mp field
  cases v with
  | bool flag =>
    obtain rfl := Written.ofBytes_inj.mp write
    exact ⟨⟨"", [("x", .uint8 (if flag then 1 else 0))]⟩, by cases flag <;> rfl⟩
  | _ => cases write

theorem mark_received :
    (({} : Header).withType (markOf (pointOf .bool))).agrees (markOf (pointOf .uint8)).digest = true ∧
      (markOf (pointOf .bool)).encodeBody ⟨"", [("p", .message ⟨"", [("x", .bool true)]⟩)]⟩ [] =
        ([1], .ok ()) ∧
      ∃ received, (markOf (pointOf .uint8)).decodeBody [1] = .ok received ∧
        ∀ out, (markOf (pointOf .uint8)).encodeBody received out = (out ++ [1], .ok ()) := by
  have sent : (markOf (pointOf .bool)).encodeBody
      ⟨"", [("p", .message ⟨"", [("x", .bool true)]⟩)]⟩ [] = ([1], .ok ()) := by rfl
  have sender := markOf_fromText (pointOf_fromText .bool)
  have receiver := markOf_fromText (pointOf_fromText .uint8)
  have agreed : (({} : Header).withType (markOf (pointOf .bool))).agrees
      (markOf (pointOf .uint8)).digest = true :=
    markOf_agrees (pointOf_fromText .bool) (pointOf_fromText .uint8)
  have bodies : (markOf (pointOf .uint8)).ItemsHaveBodies := by
    have point : (pointOf .uint8).ItemsHaveBodies := by
      refine .flat (fun f member => ?_) fun f member => ?_
      · rw [List.mem_singleton.mp member]
        intro _ array
        exact (array rfl).elim
      · rw [List.mem_singleton.mp member]
        exact ⟨.uint8, rfl⟩
    refine .intro (fun f member => ?_) fun f member inner holds => ?_
    · rw [List.mem_singleton.mp member]
      intro _ array
      exact (array rfl).elim
    · rw [List.mem_singleton.mp member] at holds
      cases holds
      exact point
  refine ⟨agreed, sent,
    sent_received_of_agrees sender receiver agreed (fun _ => markOf_text _ _) ?_ bodies sent⟩
  intro f member g member' _ x y inside inside'
  rw [List.mem_singleton.mp member] at inside
  rw [List.mem_singleton.mp member'] at inside'
  cases inside
  cases inside'
  exact flagPoint_readableAs_bytePoint

end Header

end TopicWire
