import HttpRoutes.Application
import HttpRoutes.Config.Fault
import HttpRoutes.Expression.Estimate
import HttpRoutes.Proofs.Handler.Reference

/-!
# The default method

A reference without a method means the default method of the configuration. Writing that method out
behind a separator gives a reference that reads it without the blanks at its ends, while the
dispatcher takes it as it is configured. So the two are answered alike whatever the controllers are
if and only if the default method has no blanks at its ends, which a valid configuration does not
promise (`Application.default_method_written`).
-/

namespace HttpRoutes

open HttpRoutes.Text

/-! ## Calling methods -/

/-- The controller that was registered last with an identifier is the one that is found. -/
theorem ControllerRegistry.find?_register (r : ControllerRegistry) (identifier : String)
    (c : Controller) : (r.register identifier c).find? identifier = some c := by
  obtain ⟨entries⟩ := r
  show findByName? (insertByName identifier c entries) identifier = some c
  induction entries with
  | nil => simp [insertByName, findByName?]
  | cons entry rest ih =>
    obtain ⟨name, d⟩ := entry
    rw [insertByName]
    split
    · simp [findByName?]
    · split
      · simp [findByName?]
      · next hne =>
        rw [findByName?, List.find?_cons_of_neg (by simpa using Ne.symm hne)]
        exact ih

/-- The controller that knows one method alone. -/
def Controller.knowing (method : String) : Controller :=
  ⟨fun called _ => if called = method then some (.json "") else none⟩

/-- Two references to one controller are answered alike if they call the same method, if nobody
knows the controller, or if its two methods give the same answer. A method that is missing is told
by its name, so two missing methods are told apart. -/
theorem Dispatcher.dispatch_eq_iff (d : Dispatcher) {r s : ControllerRef}
    (hidentifier : s.identifier = r.identifier) (i : Invocation) :
    d.dispatch (.controller r) i = d.dispatch (.controller s) i ↔
      d.methodFor r = d.methodFor s ∨ d.registry.find? r.identifier = none ∨
        ∃ c answer, d.registry.find? r.identifier = some c ∧
          c.invoke (d.methodFor r) i = some answer ∧ c.invoke (d.methodFor s) i = some answer := by
  simp only [dispatch, hidentifier]
  cases hfind : d.registry.find? r.identifier with
  | none => simp
  | some c =>
    by_cases hsame : d.methodFor r = d.methodFor s
    · simp [hsame]
    · cases hr : c.invoke (d.methodFor r) i with
      | none => cases hs : c.invoke (d.methodFor s) i <;> simp [hsame, hr, hs]
      | some answer =>
        cases hs : c.invoke (d.methodFor s) i with
        | none => simp [hsame, hr, hs]
        | some other => simp [hsame, hr, hs, eq_comm]

/-! ## The default method written out -/

/-- The method that is read from a text: the text without the blanks at its ends. -/
def readMethod (text : String) : String := String.ofList (trimBoth isBlank text.toList)

theorem readMethod_eq_self_iff {text : String} :
    readMethod text = text ↔ Trimmed isBlank text.toList := by
  rw [readMethod, ← String.toList_inj, String.toList_ofList, trimBoth_eq_self_iff]

/-- The default method of a valid configuration is not all blanks. -/
theorem Config.defaultMethod_of_valid [Engine] {c : Config} (h : c.isValid = true) :
    ∃ x ∈ c.dispatch.defaultMethod.toList, isBlank x = false := by
  rw [isValid, List.isEmpty_iff, faults, List.append_eq_nil_iff, settingFaults,
    List.append_eq_nil_iff] at h
  by_contra hblank
  have hall : c.dispatch.defaultMethod.toList.all isBlank = true := by simpa using hblank
  rw [if_pos hall] at h
  exact absurd h.1.2 (List.cons_ne_nil _ _)

/-- A text that refers to a controller without a method refers to it with the method that is written
behind a separator. -/
theorem Handler.parse_with_method {id method : String} {separator : Char} {r : ControllerRef}
    (hparse : parse id separator = .ok (.controller r)) (hnone : r.method = none)
    (hmethod : ∃ c ∈ method.toList, isBlank c = false) :
    parse (id ++ separator.toString ++ method) separator =
      .ok (.controller { r with method := some (readMethod method) }) := by
  obtain ⟨r', hrefers, heq⟩ := parse_eq_ok.1 hparse
  cases heq
  obtain ⟨name, hname⟩ := HoldsName.exists_iff.2 hmethod
  obtain rfl : name = readMethod method := (HoldsName.iff_trimBoth.1 hname).2
  have htext : (id ++ separator.toString ++ method).toList =
      id.toList ++ separator :: method.toList := by simp
  refine parse_eq_ok.2 ⟨_, ?_, rfl⟩
  rw [htext]
  generalize id.toList = cs at hrefers
  cases hrefers with
  | controller hseparator hidentifier => exact .method hseparator hidentifier hname
  | method => cases hnone

namespace Application

/-- Where the default method and the method that is read from it are answered alike. -/
theorem dispatch_default_iff (a : Application) (config : Config) {r : ControllerRef}
    (hnone : r.method = none) (i : Invocation) :
    (a.dispatcherFor config).dispatch (.controller r) i = (a.dispatcherFor config).dispatch
        (.controller { r with method := some (readMethod config.dispatch.defaultMethod) }) i ↔
      Trimmed isBlank config.dispatch.defaultMethod.toList ∨
      a.registry.find? r.identifier = none ∨
      ∃ c answer, a.registry.find? r.identifier = some c ∧
        c.invoke config.dispatch.defaultMethod i = some answer ∧
        c.invoke (readMethod config.dispatch.defaultMethod) i = some answer := by
  have hmethod : (a.dispatcherFor config).methodFor r = config.dispatch.defaultMethod := by
    rw [Dispatcher.methodFor, hnone]
    rfl
  rw [← readMethod_eq_self_iff, Dispatcher.dispatch_eq_iff, hmethod, eq_comm]
  · rfl
  · rfl

/-- A controller that knows the default method only as it is configured tells the two apart. -/
theorem trimmed_of_alike {config : Config} {r : ControllerRef} (hnone : r.method = none)
    (halike : ∀ (a : Application) (i : Invocation),
      (a.dispatcherFor config).dispatch (.controller r) i = (a.dispatcherFor config).dispatch
        (.controller { r with method := some (readMethod config.dispatch.defaultMethod) }) i) :
    Trimmed isBlank config.dispatch.defaultMethod.toList := by
  let strict := Controller.knowing config.dispatch.defaultMethod
  let registry := ControllerRegistry.empty.register r.identifier strict
  have hfind : registry.find? r.identifier = some strict := ControllerRegistry.find?_register _ _ _
  have hcases := (dispatch_default_iff ⟨config, .empty, [], registry⟩ config hnone
    ⟨.get, "", .empty, [], .empty, ""⟩).1 (halike _ _)
  rcases hcases with htrimmed | hunknown | ⟨c, answer, hc, -, hread⟩
  · exact htrimmed
  · cases hfind.symm.trans hunknown
  · cases hfind.symm.trans hc
    by_contra huntrimmed
    have hne : readMethod config.dispatch.defaultMethod ≠ config.dispatch.defaultMethod :=
      mt readMethod_eq_self_iff.1 huntrimmed
    have hunread : strict.invoke (readMethod config.dispatch.defaultMethod)
        ⟨.get, "", .empty, [], .empty, ""⟩ = none := if_neg hne
    cases hread.symm.trans hunread

/-- A handler without a method and the handler with the default method of a valid configuration
written out are answered alike by all applications if and only if the default method has no blanks
at its ends. Otherwise they are answered alike only where nobody knows the controller, or where both
methods exist and give the same answer. -/
theorem default_method_written [Engine] {config : Config} (hvalid : config.isValid = true)
    {id : String} {r : ControllerRef}
    (hparse : Handler.parse id config.dispatch.separator = .ok (.controller r))
    (hnone : r.method = none) :
    ∃ written, Handler.parse (id ++ config.dispatch.separator.toString ++
        config.dispatch.defaultMethod) config.dispatch.separator = .ok written ∧
      ((∀ (a : Application) (i : Invocation),
          (a.dispatcherFor config).dispatch (.controller r) i =
            (a.dispatcherFor config).dispatch written i) ↔
        Trimmed isBlank config.dispatch.defaultMethod.toList) ∧
      ∀ (a : Application) (i : Invocation),
        (a.dispatcherFor config).dispatch (.controller r) i =
            (a.dispatcherFor config).dispatch written i ↔
          Trimmed isBlank config.dispatch.defaultMethod.toList ∨
          a.registry.find? r.identifier = none ∨
          ∃ c answer, a.registry.find? r.identifier = some c ∧
            c.invoke config.dispatch.defaultMethod i = some answer ∧
            c.invoke (readMethod config.dispatch.defaultMethod) i = some answer := by
  refine ⟨_, Handler.parse_with_method hparse hnone (Config.defaultMethod_of_valid hvalid),
    ⟨trimmed_of_alike hnone, ?_⟩, fun a i => dispatch_default_iff a config hnone i⟩
  intro htrimmed a i
  exact (dispatch_default_iff a config hnone i).2 (.inl htrimmed)

/-- The handler text has blanks around it, and the default method has a separator in it. -/
theorem default_method_written_nested :
    let config : Config := { Config.default with dispatch := ⟨'@', "show@all"⟩ }
    let r : ControllerRef := ⟨"pages", none, '@'⟩
    config.isValid = true ∧ Handler.parse " pages " '@' = .ok (.controller r) ∧
      ∃ written, Handler.parse " pages @show@all" '@' = .ok written ∧
        ∀ (a : Application) (i : Invocation),
          (a.dispatcherFor config).dispatch (.controller r) i =
            (a.dispatcherFor config).dispatch written i := by
  intro config r
  have hvalid : config.isValid = true := by decide +kernel
  have hparse : Handler.parse " pages " '@' = .ok (.controller r) :=
    Handler.parse_eq_ok.2 ⟨r, ControllerRef.parse_eq_ok.1 (by decide +kernel), rfl⟩
  obtain ⟨written, hwritten, halike, -⟩ := default_method_written hvalid hparse rfl
  exact ⟨hvalid, hparse, written, hwritten, halike.2 (by decide +kernel)⟩

/-- A default method with blanks at its ends is valid, and the echo controller does not know it,
while it knows the method that is read when the default method is written out. -/
theorem default_method_differs_with_blanks :
    let config : Config := { Config.default with dispatch := ⟨'@', " run "⟩ }
    let a : Application := ⟨config, .empty, [], .builtin⟩
    let i : Invocation := ⟨.get, "/", .empty, [], .empty, ""⟩
    config.isValid = true ∧
      ∃ bare written, Handler.parse "echo" '@' = .ok bare ∧ bare.text = "echo" ∧
        Handler.parse "echo@ run " '@' = .ok written ∧
        (a.dispatcherFor config).dispatch bare i = .error (.unknownMethod "echo" " run ") ∧
        (a.dispatcherFor config).dispatch written i = .ok (.json (echoReply "run" i).render) := by
  intro config a i
  have hread {text : String} {r : ControllerRef} (h : ControllerRef.parse text '@' = .ok r) :
      Handler.parse text '@' = .ok (.controller r) :=
    Handler.parse_eq_ok.2 ⟨r, ControllerRef.parse_eq_ok.1 h, rfl⟩
  refine ⟨by decide +kernel, _, _, hread (r := ⟨"echo", none, '@'⟩) (by decide +kernel), rfl,
    hread (r := ⟨"echo", some "run", '@'⟩) (by decide +kernel), by decide +kernel,
    by decide +kernel⟩

end Application

end HttpRoutes
