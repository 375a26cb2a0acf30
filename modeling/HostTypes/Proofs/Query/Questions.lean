import HostTypes.Proofs.Query.Faithful
import Mathlib.Data.List.Induction

/-!
What is asked of a frozen catalog and its getters. Every question has one reply, that of the scans
and searches without caches, whatever has been asked before (`computes_ask`); after any questions the
memory is faithful (`faithful_memoryAfter`).
-/

namespace HostTypes

namespace Environment

variable {env : Environment}

/-! ## Entries -/

theorem computes_closest (type : TypeKey) :
    env.Computes (env.catalog.closest? type)
      (env.catalog.entryAt (env.catalog.closestNumber? type)) { closest := [type] } :=
  (computes_fetchClosest type).bind_silent (computes_pure _)

theorem computes_printing (type : TypeKey) :
    env.Computes (env.catalog.printing? type) (env.catalog.entryAt (env.catalog.printer? type))
      { printing := [type], closest := env.catalog.askedClosest type } :=
  (computes_fetchPrinting type).bind_silent (computes_pure _)

theorem computes_closestToAll (types : List TypeKey) :
    env.Computes (env.catalog.closestToAll? types)
      ((env.catalog.hierarchy.commonSupertype? types).bind env.catalog.closestEntry?)
      { closest := (env.catalog.hierarchy.commonSupertype? types).toList } := by
  unfold Catalog.closestToAll?
  cases env.catalog.hierarchy.commonSupertype? types with
  | some common => exact computes_closest common
  | none => exact computes_pure _

theorem computes_cloneValue (value : Value) :
    env.Computes (env.catalog.cloneValue value) (env.catalog.copy value)
      { closest := [value.type] } := by
  unfold Catalog.cloneValue Catalog.copy Catalog.closestEntry?
  refine (computes_closest value.type).bind_silent ?_
  cases (env.catalog.entryAt (env.catalog.closestNumber? value.type)).bind TypeEntry.cloner <;>
    exact computes_pure _

theorem computes_displayValue (value : Value) (mode : DisplayMode) (flags : DisplayFlags) :
    env.Computes (env.catalog.displayValue value mode flags)
      (match env.catalog.entryAt (env.catalog.printer? value.type) with
      | none => unregisteredText (env.catalog.hierarchy.name value.type) mode
      | some entry => entry.displayValue value mode flags)
      { printing := [value.type], closest := env.catalog.askedClosest value.type } := by
  refine (computes_printing value.type).bind_silent ?_
  cases env.catalog.entryAt (env.catalog.printer? value.type) <;> exact computes_pure _

/-! ## Conversion -/

theorem computes_converterExists (source target : TypeKey) :
    env.Computes (env.catalog.graph.converterExists source target)
      (env.catalog.graph.converts source target)
      { chains := env.catalog.graph.askedChains source target } := by
  unfold ConversionGraph.converterExists ConversionGraph.converts ConversionGraph.askedChains
  cases env.catalog.graph.hierarchy.isAssignable source target with
  | true => exact computes_pure _
  | false => exact (computes_chain source target).bind_silent (computes_pure _)

theorem computes_checkResult (target : TypeKey) (result : Value) :
    env.Computes (env.catalog.graph.checkResult target result)
      (if env.catalog.graph.hierarchy.isAssignable result.type target then some result else none)
      {} := by
  unfold ConversionGraph.checkResult
  split
  · exact computes_pure _
  · refine (computes_notify _).bind_silent ?_
    exact computes_pure _

theorem computes_convert (value : Value) (target : TypeKey) :
    env.Computes (env.catalog.graph.convert value target) (env.catalog.graph.result? value target)
      { chains := env.catalog.graph.askedChains value.type target } := by
  unfold ConversionGraph.convert ConversionGraph.result? ConversionGraph.askedChains
  split
  · exact computes_pure _
  · refine (computes_chain value.type target).bind_silent ?_
    cases (env.catalog.graph.search value.type target).bind
        (env.catalog.graph.applyChain · value) with
    | none => exact computes_pure _
    | some result => exact computes_checkResult target result

/-! ## Storage -/

theorem computes_encode (entry : TypeEntry) (value : Value) (onPrimary : Bool) :
    env.Computes (entry.encode value onPrimary) (entry.encoded? value) {} := by
  unfold TypeEntry.encode TypeEntry.encoded?
  cases entry.serializer with
  | none => exact computes_pure _
  | some serializer =>
      dsimp only
      cases serializer.encode value with
      | ok bytes =>
          split
          · refine (computes_notify _).bind_silent ?_
            exact computes_pure _
          · exact computes_pure _
      | error error =>
          have failed : env.Computes
              (do notify (.serializeFailed entry.codeName error); return none)
              (none : Option StoredValue) {} := by
            refine (computes_notify _).bind_silent ?_
            exact computes_pure _
          split
          · exact (computes_notify _).bind_silent failed
          · exact failed

theorem computes_followAliases (hops : Nat) (entry : TypeEntry) (value : Value) :
    env.Computes (env.catalog.followAliases hops entry value)
      (env.catalog.storing? hops entry value)
      { chains := env.catalog.askedAliases hops entry value } := by
  induction hops generalizing entry value with
  | zero =>
      unfold Catalog.followAliases Catalog.storing? Catalog.askedAliases
      cases entry.serializeAs with
      | none => exact computes_pure _
      | some target =>
          refine (computes_notify _).bind_silent ?_
          exact computes_pure _
  | succ hops ih =>
      unfold Catalog.followAliases Catalog.storing? Catalog.askedAliases
      cases entry.serializeAs with
      | none => exact computes_pure _
      | some target =>
          dsimp only
          refine (computes_convert value target).bind_chains ?_
          cases env.catalog.graph.result? value target with
          | none => exact computes_pure _
          | some converted =>
              cases env.catalog.entryFor? target with
              | none => exact computes_pure _
              | some next => exact ih next converted

theorem computes_serialize (value : Value) (onPrimary : Bool) :
    env.Computes (env.catalog.serialize value onPrimary) (env.catalog.storedForm? value)
      { closest := [value.type], chains := env.catalog.askedStorage value } := by
  unfold Catalog.serialize Catalog.storedForm?
  show env.Computes _ _
    (({ closest := [value.type] } : Asked) ++ { chains := env.catalog.askedStorage value })
  refine (computes_closest value.type).bind ?_
  unfold Catalog.askedStorage Catalog.closestEntry?
  cases env.catalog.entryAt (env.catalog.closestNumber? value.type) with
  | none => exact computes_pure _
  | some entry =>
      dsimp only
      refine (computes_followAliases env.catalog.entries.length entry value).bind_silent ?_
      cases env.catalog.storing? env.catalog.entries.length entry value with
      | none => exact computes_pure _
      | some stored => exact computes_encode stored.1 stored.2 onPrimary

/-! ## Getters -/

theorem computes_convertibleAmong (request : GetterRequest) (getters : List EventGetter) :
    env.Computes (env.registry.convertibleAmong request getters)
      (getters.filter fun getter => env.registry.isApplicable request getter &&
        env.registry.graph.converts getter.valueType request.valueType)
      { chains := (getters.filter (env.registry.isApplicable request)).flatMap fun getter =>
          env.registry.graph.askedChains getter.valueType request.valueType } := by
  induction getters with
  | nil => exact computes_pure _
  | cons getter rest ih =>
      unfold EventRegistry.convertibleAmong
      by_cases applicable : env.registry.isApplicable request getter
      · rw [if_pos applicable, List.filter_cons, List.filter_cons_of_pos applicable, applicable,
          Bool.true_and, List.flatMap_cons]
        have converts : env.Computes
            (env.registry.graph.converterExists getter.valueType request.valueType)
            (env.registry.graph.converts getter.valueType request.valueType)
            { chains := env.registry.graph.askedChains getter.valueType request.valueType } := by
          rw [env.shared]
          exact computes_converterExists _ _
        exact converts.bind_chains (ih.bind_silent (computes_pure _))
      · rw [if_neg applicable, List.filter_cons_of_neg (by simp [applicable]),
          List.filter_cons_of_neg applicable]
        exact ih

theorem computes_scan (request : GetterRequest) :
    env.Computes (env.registry.scan request) (env.registry.answer request)
      { chains := env.registry.askedChains request } := by
  unfold EventRegistry.scan EventRegistry.answer EventRegistry.askedChains
  cases env.registry.select? none (env.registry.sameType request) with
  | some resolution => exact computes_pure _
  | none =>
      dsimp only
      cases request.exact with
      | true => exact computes_pure _
      | false =>
          cases env.registry.select? none (env.registry.subtypes request) with
          | some resolution => exact computes_pure _
          | none =>
              exact (computes_convertibleAmong request env.registry.getters).bind_silent
                (computes_pure _)

theorem computes_resolution (request : GetterRequest) :
    env.Computes (env.registry.resolution request) (env.registry.answer request)
      (env.registry.asked request) :=
  computes_resolution_of_scan (computes_scan request)

theorem computes_resolve (request : GetterRequest) :
    env.Computes (env.registry.resolve request)
      (match env.registry.answer request with
      | .found getter => .ok (some getter)
      | .missing => .ok none
      | .ambiguous candidates => .error (env.registry.ambiguityError request candidates))
      (env.registry.asked request) := by
  refine (computes_resolution request).bind_silent ?_
  cases env.registry.answer request <;> exact computes_pure _

theorem computes_hasTimeStates (event valueType : TypeKey) (exact : Bool) :
    env.Computes (env.registry.hasTimeStates event valueType exact)
      (env.registry.differsInTime event valueType exact)
      (env.registry.askedTimes event valueType exact) := by
  unfold EventRegistry.hasTimeStates EventRegistry.differsInTime EventRegistry.askedTimes
  refine (computes_resolution ⟨event, valueType, .before, exact⟩).bind ?_
  cases (env.registry.answer ⟨event, valueType, .before, exact⟩).isMissing with
  | false => exact computes_pure _
  | true =>
      exact (computes_resolution ⟨event, valueType, .after, exact⟩).bind_silent (computes_pure _)

/-! ## Questions -/

inductive Question where
  | closest (type : TypeKey)
  | closestToAll (types : List TypeKey)
  | clone (value : Value)
  | display (value : Value) (mode : DisplayMode) (flags : DisplayFlags)
  | convert (value : Value) (target : TypeKey)
  | converterExists (source target : TypeKey)
  | serialize (value : Value) (onPrimary : Bool)
  | resolve (request : GetterRequest)
  | hasTimeStates (event valueType : TypeKey) (exact : Bool)

inductive Answer where
  | entry (entry : Option TypeEntry)
  | value (value : Option Value)
  | text (text : String)
  | truth (holds : Bool)
  | stored (stored : Option StoredValue)
  | getter (outcome : Except ResolveError (Option ResolvedGetter))

def ask (env : Environment) : Question → Query Answer
  | .closest type => Answer.entry <$> env.catalog.closest? type
  | .closestToAll types => Answer.entry <$> env.catalog.closestToAll? types
  | .clone value => (Answer.value ∘ some) <$> env.catalog.cloneValue value
  | .display value mode flags => Answer.text <$> env.catalog.displayValue value mode flags
  | .convert value target => Answer.value <$> env.catalog.graph.convert value target
  | .converterExists source target =>
    Answer.truth <$> env.catalog.graph.converterExists source target
  | .serialize value onPrimary => Answer.stored <$> env.catalog.serialize value onPrimary
  | .resolve request => Answer.getter <$> env.registry.resolve request
  | .hasTimeStates event valueType exact =>
    Answer.truth <$> env.registry.hasTimeStates event valueType exact

/-- What the scans and searches give, without caches. -/
def reply (env : Environment) : Question → Answer
  | .closest type => .entry (env.catalog.closestEntry? type)
  | .closestToAll types =>
    .entry ((env.catalog.hierarchy.commonSupertype? types).bind env.catalog.closestEntry?)
  | .clone value => .value (some (env.catalog.copy value))
  | .display value mode flags => .text (env.catalog.textOf value mode flags)
  | .convert value target => .value (env.catalog.graph.result? value target)
  | .converterExists source target => .truth (env.catalog.graph.converts source target)
  | .serialize value _ => .stored (env.catalog.storedForm? value)
  | .resolve request => .getter (env.registry.outcome request)
  | .hasTimeStates event valueType exact =>
    .truth (env.registry.differsInTime event valueType exact)

/-- The keys that a question asks the caches for. -/
def asked (env : Environment) : Question → Asked
  | .closest type => { closest := [type] }
  | .closestToAll types =>
    { closest := (env.catalog.hierarchy.commonSupertype? types).toList }
  | .clone value => { closest := [value.type] }
  | .display value _ _ =>
    { printing := [value.type], closest := env.catalog.askedClosest value.type }
  | .convert value target => { chains := env.catalog.graph.askedChains value.type target }
  | .converterExists source target => { chains := env.catalog.graph.askedChains source target }
  | .serialize value _ => { closest := [value.type], chains := env.catalog.askedStorage value }
  | .resolve request => env.registry.asked request
  | .hasTimeStates event valueType exact => env.registry.askedTimes event valueType exact

theorem computes_ask (question : Question) :
    env.Computes (env.ask question) (env.reply question) (env.asked question) := by
  cases question with
  | closest type => exact (computes_closest type).map _
  | closestToAll types => exact (computes_closestToAll types).map _
  | clone value => exact (computes_cloneValue value).map _
  | display value mode flags => exact (computes_displayValue value mode flags).map _
  | convert value target => exact (computes_convert value target).map _
  | converterExists source target => exact (computes_converterExists source target).map _
  | serialize value onPrimary => exact (computes_serialize value onPrimary).map _
  | resolve request => exact (computes_resolve request).map _
  | hasTimeStates event valueType exact =>
      exact (computes_hasTimeStates event valueType exact).map _

def memoryAfter (env : Environment) (questions : List Question) : Memory :=
  questions.foldl (fun memory question => ((env.ask question).run memory).2) {}

theorem faithful_memoryAfter (env : Environment) (questions : List Question) :
    env.Faithful (env.memoryAfter questions) := by
  induction questions using List.reverseRecOn with
  | nil => exact faithful_empty env
  | append_singleton questions question ih =>
      rw [memoryAfter, List.foldl_append]
      exact (computes_ask question _ ih).2.1

end Environment

end HostTypes
