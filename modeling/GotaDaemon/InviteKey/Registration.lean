import GotaDaemon.InviteKey.KeyManager

/-! Histories of a KeyManager. What a call answers depends on the registrations
before it and on nothing else: the parser that ParseKey registers by itself is the
one it would use without it. -/
namespace GotaDaemon.InviteKey
open Go Ecdh

/-- A call of a method of KeyManager. -/
inductive Call where
  | registerGenerator (version : UInt32) (generator : IKeyGenerator)
  | registerParser (version : UInt32) (keyPrefix : List UInt8) (parser : IKeyParser)
  | generateKey (version : UInt32)
  | parseKey (keyStr : List UInt8)

inductive Answer where
  | registered
  | generated (result : Outcome KeyError (List UInt8))
  | parsed (result : Outcome KeyError (PublicKey × List UInt8))

def KeyManager.call (scheme : Ed25519.Scheme) (km : KeyManager) : Call → Answer × KeyManager
  | .registerGenerator version generator => (.registered, km.registerGenerator version generator)
  | .registerParser version keyPrefix parser =>
    (.registered, km.registerParser version keyPrefix parser)
  | .generateKey version => (.generated (km.generateKey version), km)
  | .parseKey keyStr => ((km.parseKey scheme keyStr).map .parsed id)

/-- A new manager after these calls. -/
def KeyManager.after (scheme : Ed25519.Scheme) (calls : List Call) : KeyManager :=
  calls.foldl (fun km call => (km.call scheme call).2) .new

namespace Call

def isParse : Call → Bool
  | .parseKey _ => true
  | _ => false

def generatorOf (version : UInt32) : Call → Option IKeyGenerator
  | .registerGenerator key generator => if key = version then some generator else none
  | _ => none

def parserOf (version : UInt32) : Call → Option IKeyParser
  | .registerParser key _ parser => if key = version then some parser else none
  | _ => none

def versionOf (keyPrefix : List UInt8) : Call → Option UInt32
  | .registerParser version key _ => if key = keyPrefix then some version else none
  | _ => none

end Call

/-- The value that the last of the calls to set it has set. -/
def lastOf {α : Type} (pick : Call → Option α) (calls : List Call)
    (initial : Option α) : Option α :=
  calls.foldl (fun found call => (pick call).or found) initial

/-- The version last bound to a prefix. -/
def boundVersion (calls : List Call) (keyPrefix : List UInt8) : Option UInt32 :=
  lastOf (Call.versionOf keyPrefix) calls
    (if keyPrefix = utf8 "gota1" then some v1keytype else none)

/-- What ParseKey is to answer after these calls. -/
def specParseKey (scheme : Ed25519.Scheme) (calls : List Call) (keyStr : List UInt8) :
    Outcome KeyError (PublicKey × List UInt8) :=
  match cut dash keyStr with
  | none => .error .missingPrefixSeparator
  | some (before, _) =>
    match boundVersion calls before with
    | none => .error (.unsupportedKeyPrefix before)
    | some version =>
      match lastOf (Call.parserOf version) calls none with
      | some parser => parser keyStr
      | none =>
        if version = v1keytype then KeyParserV1.new.parseKey scheme keyStr
        else .error (.noParser version)

def specCall (scheme : Ed25519.Scheme) (calls : List Call) : Call → Answer
  | .registerGenerator _ _ | .registerParser _ _ _ => .registered
  | .generateKey version =>
    .generated ((lastOf (Call.generatorOf version) calls none).getD (.error (.noGenerator version)))
  | .parseKey keyStr => .parsed (specParseKey scheme calls keyStr)

variable {scheme : Ed25519.Scheme} {calls : List Call} {km : KeyManager}

@[simp] theorem lastOf_append {α : Type} (pick : Call → Option α) (call : Call)
    (initial : Option α) :
    lastOf pick (calls ++ [call]) initial = (pick call).or (lastOf pick calls initial) := by
  simp [lastOf]

/-- Calls that set nothing may come and go. -/
theorem lastOf_filter {α : Type} {pick : Call → Option α} {keep : Call → Bool} {initial : Option α}
    (idle : ∀ call ∈ calls, keep call = false → pick call = none) :
    lastOf pick (calls.filter keep) initial = lastOf pick calls initial := by
  unfold lastOf
  induction calls generalizing initial with
  | nil => rfl
  | cons call calls ih =>
    have rest :
      ∀ initial, (calls.filter keep).foldl (fun found call => (pick call).or found) initial =
        calls.foldl (fun found call => (pick call).or found) initial :=
      fun _ => ih fun call member => idle call (List.mem_cons_of_mem _ member)
    cases kept : keep call with
    | true => rw [List.filter_cons_of_pos kept, List.foldl_cons, List.foldl_cons, rest]
    | false =>
      rw [List.filter_cons_of_neg (by simp [kept]), List.foldl_cons, rest,
        idle call List.mem_cons_self kept,
        Option.none_or]

/-- The manager holds what has been registered, and maybe the parser of version 1
where none has. -/
structure Holds (scheme : Ed25519.Scheme) (calls : List Call) (km : KeyManager) : Prop where
  generators : ∀ version,
    km.generatorList.lookup version = lastOf (Call.generatorOf version) calls none
  versions : ∀ keyPrefix, km.prefixToVersion.lookup keyPrefix = boundVersion calls keyPrefix
  parsers : ∀ version,
    km.ecdhParserList.lookup version = lastOf (Call.parserOf version) calls none ∨
    version = v1keytype ∧ lastOf (Call.parserOf version) calls none = none ∧
      km.ecdhParserList.lookup version = some (KeyParserV1.new.parseKey scheme)

theorem holds_new : Holds scheme [] .new where
  generators _ := rfl
  versions keyPrefix := by
    by_cases same : keyPrefix = utf8 "gota1"
    · rw [same, boundVersion, lastOf, List.foldl_nil, if_pos rfl]
      exact AList.lookup_insert _
    · rw [boundVersion, lastOf, List.foldl_nil, if_neg same]
      exact AList.lookup_insert_ne same
  parsers _ := .inl rfl

theorem Holds.registerGenerator (held : Holds scheme calls km) (version : UInt32)
    (generator : IKeyGenerator) :
    Holds scheme (calls ++ [.registerGenerator version generator])
      (km.registerGenerator version generator) where
  generators key := by
    rw [lastOf_append, ← held.generators key]
    by_cases same : version = key
    · subst same
      simp [KeyManager.registerGenerator, Call.generatorOf]
    · simp [KeyManager.registerGenerator, Call.generatorOf, same,
        AList.lookup_insert_ne (Ne.symm same)]
  versions keyPrefix := by
    rw [boundVersion, lastOf_append]
    exact held.versions keyPrefix
  parsers key := by
    rw [lastOf_append]
    exact held.parsers key

theorem Holds.registerParser (held : Holds scheme calls km) (version : UInt32)
    (keyPrefix : List UInt8) (parser : IKeyParser) :
    Holds scheme (calls ++ [.registerParser version keyPrefix parser])
      (km.registerParser version keyPrefix parser) where
  generators key := by
    rw [lastOf_append]
    exact held.generators key
  versions key := by
    rw [boundVersion, lastOf_append]
    by_cases same : keyPrefix = key
    · subst same
      simp [KeyManager.registerParser, Call.versionOf]
    · simp only [KeyManager.registerParser, Call.versionOf, if_neg same, Option.none_or]
      rw [AList.lookup_insert_ne (Ne.symm same)]
      exact held.versions key
  parsers key := by
    rw [lastOf_append]
    by_cases same : version = key
    · subst same
      exact .inl (by simp [KeyManager.registerParser, Call.parserOf])
    · simp only [KeyManager.registerParser, Call.parserOf, if_neg same, Option.none_or]
      rw [AList.lookup_insert_ne (Ne.symm same)]
      exact held.parsers key

/-- A call that sets nothing. -/
theorem Holds.idle (held : Holds scheme calls km) {call : Call}
    (generators : ∀ version, call.generatorOf version = none)
    (parsers : ∀ version, call.parserOf version = none)
    (versions : ∀ keyPrefix, call.versionOf keyPrefix = none) :
    Holds scheme (calls ++ [call]) km where
  generators version := by rw [lastOf_append, generators, Option.none_or, held.generators]
  versions keyPrefix := by
    rw [boundVersion, lastOf_append, versions, Option.none_or]
    exact held.versions keyPrefix
  parsers version := by
    rw [lastOf_append, parsers, Option.none_or]
    exact held.parsers version

/-- The parser that ParseKey registers by itself stands for none. -/
theorem Holds.lazily (held : Holds scheme calls km)
    (unregistered : km.ecdhParserList.lookup v1keytype = none) :
    Holds scheme calls
      { km with
        ecdhParserList :=
          km.ecdhParserList.insert v1keytype (KeyParserV1.new.parseKey scheme) } where
  generators := held.generators
  versions := held.versions
  parsers version := by
    by_cases same : version = v1keytype
    · subst same
      have none : lastOf (Call.parserOf v1keytype) calls none = none := by
        rcases held.parsers v1keytype with registered | ⟨_, none, _⟩
        · rw [← registered, unregistered]
        · exact none
      exact .inr ⟨rfl, none, AList.lookup_insert _⟩
    · rw [AList.lookup_insert_ne same]
      exact held.parsers version

theorem Holds.parseKey (held : Holds scheme calls km) (keyStr : List UInt8) :
    (km.parseKey scheme keyStr).1 = specParseKey scheme calls keyStr ∧
    Holds scheme calls (km.parseKey scheme keyStr).2 := by
  unfold KeyManager.parseKey specParseKey
  cases cut dash keyStr with
  | none => exact ⟨rfl, held⟩
  | some parts =>
    obtain ⟨before, _⟩ := parts
    simp only [held.versions before]
    cases boundVersion calls before with
    | none => exact ⟨rfl, held⟩
    | some version =>
      simp only
      rcases held.parsers version with registered | ⟨rfl, none, lazily⟩
      · rw [← registered]
        cases found : km.ecdhParserList.lookup version with
        | some parser => exact ⟨rfl, held⟩
        | none =>
          by_cases first : version = v1keytype
          · subst first
            simp only [ne_eq, not_true_eq_false, if_false, if_true]
            exact ⟨trivial, held.lazily found⟩
          · simp only [ne_eq, first, not_false_eq_true, if_true, if_false]
            exact ⟨trivial, held⟩
      · simp only [none, lazily, if_true]
        exact ⟨trivial, held⟩

theorem Holds.call (held : Holds scheme calls km) (call : Call) :
    (km.call scheme call).1 = specCall scheme calls call ∧
    Holds scheme (calls ++ [call]) (km.call scheme call).2 := by
  cases call with
  | registerGenerator version generator => exact ⟨rfl, held.registerGenerator version generator⟩
  | registerParser version keyPrefix parser =>
    exact ⟨rfl, held.registerParser version keyPrefix parser⟩
  | generateKey version =>
    refine ⟨?_, held.idle (fun _ => rfl) (fun _ => rfl) fun _ => rfl⟩
    simp only [KeyManager.call, KeyManager.generateKey, specCall, held.generators version]
    cases lastOf (Call.generatorOf version) calls none <;> rfl
  | parseKey keyStr =>
    obtain ⟨result, kept⟩ := held.parseKey keyStr
    exact ⟨congrArg Answer.parsed result, kept.idle (fun _ => rfl) (fun _ => rfl) fun _ => rfl⟩

theorem holds_after (calls : List Call) : Holds scheme calls (.after scheme calls) := by
  induction calls using List.reverseRecOn with
  | nil => exact holds_new
  | append_singleton calls call ih =>
    rw [KeyManager.after, List.foldl_append]
    exact (ih.call call).2

/-- What a call is to answer does not depend on the ParseKey calls before it. -/
theorem specCall_filter (calls : List Call) (call : Call) :
    specCall scheme (calls.filter fun call => !call.isParse) call = specCall scheme calls call := by
  have unset : ∀ {α : Type} {pick : Call → Option α} {initial : Option α},
    (∀ keyStr, pick (.parseKey keyStr) = none) →
      lastOf pick (calls.filter fun call => !call.isParse) initial = lastOf pick calls initial := by
    intro α pick initial silent
    refine lastOf_filter fun call _ parse => ?_
    cases call with
    | parseKey keyStr => exact silent keyStr
    | _ => cases parse
  have versions : ∀ keyPrefix, boundVersion (calls.filter fun call => !call.isParse) keyPrefix =
      boundVersion calls keyPrefix := fun keyPrefix => unset fun _ => rfl
  cases call with
  | registerGenerator | registerParser => rfl
  | generateKey version => rw [specCall, specCall, unset fun _ => rfl]
  | parseKey keyStr =>
    have parsers :
      ∀ version, lastOf (Call.parserOf version) (calls.filter fun call => !call.isParse) none =
        lastOf (Call.parserOf version) calls none := fun version => unset fun _ => rfl
    simp only [specCall, specParseKey, versions, parsers]

/-- Without registered parsers the specification accepts what KeyParserV1 accepts. -/
theorem specParseKey_unregistered
    (none : ∀ version keyPrefix parser, .registerParser version keyPrefix parser ∉ calls)
    (keyStr : List UInt8) (result : PublicKey × List UInt8) :
    specParseKey scheme calls keyStr = .ok result ↔
      KeyParserV1.new.parseKey scheme keyStr = .ok result := by
  have unset : ∀ {α : Type} {pick : Call → Option α} {initial : Option α},
      (∀ call ∈ calls, pick call = Option.none) → lastOf pick calls initial = initial := by
    intro α pick initial silent
    have emptied : lastOf pick (calls.filter fun _ => false) initial = lastOf pick calls initial :=
      lastOf_filter fun call member _ => silent call member
    rw [← emptied, List.filter_false]
    rfl
  have version : ∀ keyPrefix, boundVersion calls keyPrefix =
      if keyPrefix = utf8 "gota1" then some v1keytype else Option.none := by
    refine fun keyPrefix => unset fun call member => ?_
    cases call with
    | registerParser version key parser => exact absurd member (none version key parser)
    | _ => rfl
  have parser : lastOf (Call.parserOf v1keytype) calls Option.none = Option.none := by
    refine unset fun call member => ?_
    cases call with
    | registerParser version key parser => exact absurd member (none version key parser)
    | _ => rfl
  constructor
  · intro accepted
    unfold specParseKey at accepted
    split at accepted
    · contradiction
    · rw [version] at accepted
      split at accepted
      · contradiction
      next found =>
        split at found
        · obtain rfl := Option.some.inj found
          simpa [parser] using accepted
        · contradiction
  · intro accepted
    obtain ⟨peerIdentity, addr⟩ := result
    obtain ⟨fields, _, _, rendered, _⟩ := parseKey_ok.mp accepted
    have first :
        cut dash keyStr = some (utf8 "gota1", fields.payload ++ dash :: fields.signature) := by
      rw [← rendered, Fields.render, List.append_assoc, List.cons_append]
      exact cut_append _ _ (by decide)
    simpa [specParseKey, first, version, parser] using accepted

/-- ParseKey may register a parser by itself, but no call can tell: every call
answers as if the ParseKey calls before it had not been made, ParseKey answers by
the last registrations, and without registered parsers it accepts what
KeyParserV1 accepts. -/
theorem lazy_parser_unobservable (scheme : Ed25519.Scheme) :
    (∀ calls others call,
      (calls.filter fun call => !call.isParse) = (others.filter fun call => !call.isParse) →
      ((KeyManager.after scheme calls).call scheme call).1 =
        ((KeyManager.after scheme others).call scheme call).1) ∧
    (∀ calls keyStr, ((KeyManager.after scheme calls).parseKey scheme keyStr).1 =
      specParseKey scheme calls keyStr) ∧
    (∀ calls, (∀ version keyPrefix parser, .registerParser version keyPrefix parser ∉ calls) →
    ∀ keyStr result,
      ((KeyManager.after scheme calls).parseKey scheme keyStr).1 = .ok result ↔
        KeyParserV1.new.parseKey scheme keyStr = .ok result) := by
  refine ⟨fun calls others call same => ?_, fun calls keyStr =>
    ((holds_after calls).parseKey keyStr).1, ?_⟩
  · calc ((KeyManager.after scheme calls).call scheme call).1
      _ = specCall scheme calls call := ((holds_after calls).call call).1
      _ = specCall scheme (calls.filter fun call => !call.isParse) call :=
        (specCall_filter calls call).symm
      _ = specCall scheme others call := by rw [same, specCall_filter]
      _ = ((KeyManager.after scheme others).call scheme call).1 :=
        ((holds_after others).call call).1.symm
  · intro calls none keyStr result
    rw [((holds_after calls).parseKey keyStr).1]
    exact specParseKey_unregistered none keyStr result

/-- The recorded key is accepted after a refused one, and leaves GenerateKey as it was. -/
theorem lazy_parser_unobservable_recorded :
    ((KeyManager.after signer [.parseKey []]).parseKey signer recordedString).1 =
      .ok (recordedIdentity, utf8 "127.0.0.1:9000") ∧
    ((KeyManager.after signer [.parseKey [], .parseKey recordedString]).call signer
      (.generateKey 0)).1 =
      ((KeyManager.after signer []).call signer (.generateKey 0)).1 := by
  have parsed : KeyParserV1.new.parseKey signer recordedString =
      .ok (recordedIdentity, utf8 "127.0.0.1:9000") := by
    decide +kernel
  obtain ⟨unobserved, _, unregistered⟩ := lazy_parser_unobservable signer
  exact ⟨(unregistered _ (by simp) _ _).mpr parsed, unobserved _ _ _ rfl⟩

end GotaDaemon.InviteKey
