import HttpRoutes.Proofs.Rebuild

/-!
# Calls that fail

A batch can fail while its routes are checked, and later while the expressions of the verbs that it
touches are built. An application can also refuse a route before that, because its handler cannot be
read, and it keeps a route for rebuilds only after its router has taken it. At whatever point a call
fails, it leaves no trace (`failed_calls_leave_no_trace`): router and application are what they
were, and after all later calls they are what they would be without it.
-/

namespace HttpRoutes

/-- After a call that fails, later calls lead where they lead without it. -/
theorem Router.after_without [Engine] {α : Type} {before : List (AddCall α)} {call : AddCall α}
    (h : ((after before).register call.batch).failure ≠ none) (later : List (AddCall α)) :
    after (before ++ call :: later) = after (before ++ later) := by
  rw [after_concat, after_concat, List.foldl_cons, register_of_failure h]

namespace Application

/-- A route that is refused leaves the application as it was. -/
theorem add_of_failure [Engine] {a : Application} {verbs : List Verb} {pattern : String}
    {handler : HandlerSource} (h : (a.add verbs pattern handler).failure ≠ none) :
    (a.add verbs pattern handler).application = a := by
  obtain ⟨-, -, happlication⟩ | ⟨-, -, -, -, hnone, -⟩ := a.add_cases verbs pattern handler
  · exact happlication
  · exact absurd hnone h

theorem prepared_without [Engine] {a : Application} {before : List SetupCall} {verbs : List Verb}
    {pattern : String} {handler : HandlerSource}
    (h : ((a.prepared before).add verbs pattern handler).failure ≠ none)
    (later : List SetupCall) :
    a.prepared (before ++ .route verbs pattern handler :: later) =
      a.prepared (before ++ later) := by
  rw [prepared, prepared, List.foldl_append, List.foldl_append, List.foldl_cons]
  show later.foldl setUp ((a.prepared before).add verbs pattern handler).application =
    later.foldl setUp (a.prepared before)
  rw [add_of_failure h]

end Application

/-- A call that fails leaves the entries and the expressions of all verbs as they were, and in an
application also the routes that are kept for rebuilds. So all later calls lead to the same router
and the same application as they do without the call. -/
theorem failed_calls_leave_no_trace [Engine] :
    (∀ (α : Type) (before later : List (Router.AddCall α)) (call : Router.AddCall α),
      ((Router.after before).register call.batch).failure ≠ none →
        ((Router.after before).register call.batch).router = Router.after before ∧
        Router.after (before ++ call :: later) = Router.after (before ++ later)) ∧
    ∀ (a : Application) (before later : List SetupCall) (verbs : List Verb) (pattern : String)
      (handler : HandlerSource),
      ((a.prepared before).add verbs pattern handler).failure ≠ none →
        ((a.prepared before).add verbs pattern handler).application = a.prepared before ∧
        a.prepared (before ++ .route verbs pattern handler :: later) =
          a.prepared (before ++ later) :=
  ⟨fun _ _ later _ h => ⟨Router.register_of_failure h, Router.after_without h later⟩,
    fun _ _ later _ _ _ h => ⟨Application.add_of_failure h, Application.prepared_without h later⟩⟩

theorem failed_calls_of_pages :
    let before : List (Router.AddCall String) := [.under .post "/b/{(?P<n>x)}" "b"]
    let failing : List (Router.AddCall String) :=
      [.routes [⟨[.get], "/ok", "ok"⟩, ⟨[], "/none", "none"⟩],
        .routes [⟨[.get], "/ok", "ok"⟩, ⟨[.put, .get], "/\x7b", "broken"⟩],
        .route [.get, .post] "/a/{(?P<n>x)}" "a"]
    let later : List (Router.AddCall String) := [.route [.get, .post] "/c" "c"]
    let set : List SetupCall := [.route [.put] "/b/{(?P<n>x)}" (.reference "users")]
    (∀ call ∈ failing, ((Router.after before).register call.batch).failure ≠ none ∧
      ((Router.after before).register call.batch).router = Router.after before ∧
      Router.after (before ++ call :: later) = Router.after (before ++ later)) ∧
    ∃ base, (Application.new Config.default).result = .ok base ∧
      ((base.prepared set).add [.get, .put] "/a/{(?P<n>x)}" (.reference "users")).failure =
        some (.route "/a/{(?P<n>x)}" (.combine .put)) ∧
      ((base.prepared set).add [.get, .put] "/a/{(?P<n>x)}" (.reference "users")).application =
        base.prepared set ∧
      ((base.prepared set).add [.get] "/c" (.reference "users@")).failure =
        some (.handler "/c" (.emptyMethod "users@")) ∧
      ((base.prepared set).add [.get] "/c" (.reference "users@")).application =
        base.prepared set := by
  intro before failing later set
  obtain ⟨hrouter, happlication⟩ := failed_calls_leave_no_trace
  have hfailing : ∀ call ∈ failing, ((Router.after before).register call.batch).failure ≠ none := by
    decide +kernel
  have hleft (call) (hcall : call ∈ failing) :=
    hrouter _ before later call (hfailing call hcall)
  refine ⟨fun call hcall => ⟨hfailing call hcall, hleft call hcall⟩, ?_⟩
  obtain ⟨base, hbase, hfailures⟩ : ∃ base, (Application.new Config.default).result = .ok base ∧
      (((base.prepared set).add [.get, .put] "/a/{(?P<n>x)}" (.reference "users")).failure,
        ((base.prepared set).add [.get] "/c" (.reference "users@")).failure) =
      (some (.route "/a/{(?P<n>x)}" (.combine .put)),
        some (.handler "/c" (.emptyMethod "users@"))) :=
    exists_of_map_eq_ok (by decide +kernel)
  obtain ⟨hcombine, hhandler⟩ := Prod.mk.inj hfailures
  have hrefused := happlication base set [] [.get, .put] "/a/{(?P<n>x)}" (.reference "users")
    (hcombine.trans_ne (Option.some_ne_none _))
  have hunread := happlication base set [] [.get] "/c" (.reference "users@")
    (hhandler.trans_ne (Option.some_ne_none _))
  exact ⟨base, hbase, hcombine, hrefused.1, hhandler, hunread.1⟩

end HttpRoutes
