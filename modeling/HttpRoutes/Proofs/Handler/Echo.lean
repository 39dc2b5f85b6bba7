import HttpRoutes.Proofs.Answers
import HttpRoutes.Proofs.Route.Parameters
import HttpRoutes.Proofs.Text.Listed

/-!
# What the echo controller tells

The echo controller answers with the parameters of the route, all of them and with their values. It
makes them into an object with sorted fields before it writes them, so they are listed in ascending
order of their names, and in the order of declaration only if the names are declared in ascending
order (`LiveState.echoed_params`).
-/

namespace HttpRoutes

open HttpRoutes.Http HttpRoutes.Text

/-! ## The text of a reply -/

/-- The text of a reply in which parameters are listed in the given order. -/
def echoText (method path token : String) (listed : List (String × String)) : String :=
  "\x7b\"method\":" ++ Json.quote method ++ ",\"params\":" ++ (Json.ofPairs listed).render ++
    ",\"path\":" ++ Json.quote path ++ ",\"verb\":" ++ Json.quote token ++ "\x7d"

/-- The text tells the order in which the parameters are listed. -/
theorem echoText_inj {method path token : String} {listed others : List (String × String)} :
    echoText method path token listed = echoText method path token others ↔ listed = others := by
  rw [← render_ofPairs_inj, ← String.toList_inj, ← String.toList_inj]
  unfold echoText
  simp only [String.toList_append, List.append_left_inj, List.append_right_inj]

/-- The fields of a reply stand in the order of their names. -/
theorem echoReply_eq (method : String) (i : Invocation) (hnodup : i.params.names.Nodup) :
    echoReply method i = .object [("method", .text method),
      ("params", .ofPairs (sortByName i.params.pairs)), ("path", .text i.path),
      ("verb", .text i.verb.token)] := by
  have hparams : sortByName (i.params.pairs.map fun p => (p.1, Json.text p.2)) =
      (sortByName i.params.pairs).map fun p => (p.1, .text p.2) := sortByName_map _ hnodup
  rw [echoReply, Json.sorted, Json.sorted, hparams]
  refine congrArg Json.object (sortByName_eq ?_ ?_)
  · have hturn (a b c d : String × Json) : [c, d, b, a].Perm [a, b, c, d] := by
      have hhalves : ([c, d] ++ [b, a]).Perm ([b, a] ++ [c, d]) := List.perm_append_comm
      exact hhalves.trans (.swap a b [c, d])
    exact hturn _ _ _ _
  · show (["method", "params", "path", "verb"] : List String).Pairwise (· < ·)
    decide

theorem render_echoReply (method : String) (i : Invocation) (hnodup : i.params.names.Nodup) :
    (echoReply method i).render =
      echoText method i.path i.verb.token (sortByName i.params.pairs) := by
  have hmethod : "\x7b\"method\":" = "\x7b" ++ (Json.quote "method" ++ ":") := by decide +kernel
  have hparams : ",\"params\":" = "," ++ (Json.quote "params" ++ ":") := by decide +kernel
  have hpath : ",\"path\":" = "," ++ (Json.quote "path" ++ ":") := by decide +kernel
  have hverb : ",\"verb\":" = "," ++ (Json.quote "verb" ++ ":") := by decide +kernel
  unfold echoText
  rw [echoReply_eq method i hnodup, hmethod, hparams, hpath, hverb]
  simp only [Json.render, Json.renderFields, String.append_assoc]

/-- A method that the echo controller has is answered by its reply. -/
theorem Dispatcher.dispatch_echo {d : Dispatcher} {r : ControllerRef}
    (hecho : d.registry.find? r.identifier = some echo) (hmethod : d.methodFor r ∈ echoMethods)
    (i : Invocation) :
    d.dispatch (.controller r) i = .ok (.json (echoReply (d.methodFor r) i).render) := by
  have hinvoke : echo.invoke (d.methodFor r) i =
      some (.json (echoReply (d.methodFor r) i).render) :=
    if_pos (List.contains_iff_mem.2 hmethod)
  simp only [dispatch, hecho, hinvoke]

/-- The controller that a handler refers to. -/
def Handler.controller? : Handler → Option ControllerRef
  | function _ => none
  | controller r => some r

theorem Handler.eq_of_controller? {h : Handler} {r : ControllerRef} (hr : h.controller? = some r) :
    h = .controller r := by
  cases h with
  | function _ => cases hr
  | controller s => exact congrArg controller (Option.some.inj hr)

/-! ## Replies of a server -/

namespace LiveState

/-- The echo controller lists the parameters that the pattern of the route names, each once and with
its value, in ascending order of the names. It lists them in the order of declaration if and only if
the pattern declares them in ascending order. -/
theorem echoed_params [Engine] (calls : List (Router.AddCall Handler)) {live : LiveState}
    {request : Request} {v : Verb} {m : RouteMatch Handler} {r : ControllerRef}
    (hrouter : live.router = Router.after calls) (hmatches : live.Matches request v m)
    (hhandler : m.handler = .controller r)
    (hecho : live.dispatcher.registry.find? r.identifier = some echo)
    (hmethod : live.dispatcher.methodFor r ∈ echoMethods)
    (hbody : request.body.size ≤ 2097152) :
    let reply (listed : List (String × String)) : Response :=
      .json (echoText (live.dispatcher.methodFor r) request.path request.method listed)
    ∃ e listed, (live.router.table.value v)[m.index]? = some e ∧ e.pattern.text = m.pattern ∧
      m.params.names = e.pattern.names.reduceOption ∧
      (live.answer request).result = reply listed ∧ listed.Perm m.params.pairs ∧
      Ascending listed ∧
      ((live.answer request).result = reply m.params.pairs ↔
        e.pattern.names.reduceOption.Pairwise (· < ·)) := by
  intro reply
  have hr := Router.after_consistent calls
  rw [← hrouter] at hr
  obtain ⟨a, found, hentry, hm⟩ := hr.entry_of_resolve hmatches.2
  have hcompiled := hr.compiled v a.entry (List.mem_of_getElem? hentry)
  have htext : a.entry.pattern.text = m.pattern := by rw [hm]
  have hnames : m.params.names = a.entry.pattern.names.reduceOption := by
    rw [hm]
    exact Combined.names_params a found
  have hnodup : m.params.names.Nodup := by
    rw [hm]
    exact Combined.nodup_names_params hcompiled found
  have hanswer : (live.answer request).result = reply (sortByName m.params.pairs) := by
    rw [answer_of_short hmatches (Nat.not_lt.2 hbody), hhandler,
      Dispatcher.dispatch_echo hecho hmethod]
    show Response.json (echoReply _ (invocation request v m)).render = reply _
    rw [render_echoReply _ (invocation request v m) hnodup]
    show Response.json (echoText _ request.path v.token _) = reply _
    rw [hmatches.1]
    rfl
  refine ⟨a.entry, sortByName m.params.pairs, hentry, htext, hnames, hanswer,
    sortByName_perm hnodup, ascending_sortByName hnodup, ?_⟩
  have hjson (s t : String) : Response.json s = .json t ↔ s = t := by simp [Response.json]
  rw [hanswer, hjson, echoText_inj, sortByName_eq_self_iff hnodup, ← hnames]
  rfl

/-- The state of a server with one route, which leads to a method of the echo controller. -/
def echoAt [Engine] (pattern : String) (method : Option String) : LiveState :=
  ⟨Router.after [.under .get pattern (.controller ⟨"echo", method, '@'⟩)], ⟨.builtin, "run"⟩, false⟩

/-- Three names, one of which is declared before a smaller one, and values that are escaped. -/
theorem echoed_params_of_three :
    let live := echoAt "/\x7bkey:[^/]+\x7d/\x7b[0-9]+\x7d/\x7bid:\x7d-\x7blang:\x7d" (some "show")
    let request : Request := ⟨"GET", "/a\"b/7/x-en", [], ""⟩
    ∃ m e listed, live.Matches request .get m ∧
      m.params.pairs = [("key", "a\"b"), ("id", "x"), ("lang", "en")] ∧
      (live.router.table.value .get)[m.index]? = some e ∧
      (live.answer request).result = .json (echoText "show" "/a\"b/7/x-en" "GET" listed) ∧
      listed.Perm m.params.pairs ∧ Ascending listed ∧
      (live.answer request).result ≠
        .json (echoText "show" "/a\"b/7/x-en" "GET" m.params.pairs) := by
  intro live request
  let r : ControllerRef := ⟨"echo", some "show", '@'⟩
  let pairs : List (String × String) := [("key", "a\"b"), ("id", "x"), ("lang", "en")]
  obtain ⟨found, hresolve, hfound⟩ : ∃ found, live.router.resolve .get request.path = .ok found ∧
      found.map (fun m => (m.handler.controller?, m.params.pairs)) = some (some r, pairs) :=
    exists_of_map_eq_ok (by decide +kernel)
  obtain ⟨m, rfl, hview⟩ := Option.map_eq_some_iff.1 hfound
  obtain ⟨hcontroller, hpairs⟩ := Prod.mk.inj hview
  have hmatches : live.Matches request .get m := ⟨rfl, hresolve⟩
  obtain ⟨e, listed, hentry, -, hnames, hanswer, hperm, hascending, hiff⟩ :=
    echoed_params _ rfl hmatches (Handler.eq_of_controller? hcontroller) rfl
      (by decide +kernel) (by decide +kernel)
  have hunsorted : ¬ e.pattern.names.reduceOption.Pairwise (· < ·) := by
    rw [← hnames, Params.names, hpairs]
    decide
  exact ⟨m, e, listed, hmatches, hpairs, hentry, hanswer, hperm, hascending, mt hiff.1 hunsorted⟩

/-- The pattern declares one name before a smaller one, and the object has them the other way. -/
theorem echoed_params_out_of_order :
    let live := echoAt "/\x7bb:\x7d/\x7ba:\x7d" none
    let request : Request := ⟨"GET", "/1/2", [], ""⟩
    (live.router.resolve .get request.path).map (Option.map fun m => m.params.pairs) =
        .ok (some [("b", "1"), ("a", "2")]) ∧
      (live.answer request).result = .json (echoText "run" "/1/2" "GET" [("a", "2"), ("b", "1")]) ∧
      (live.answer request).result ≠
        .json (echoText "run" "/1/2" "GET" [("b", "1"), ("a", "2")]) := by
  decide +kernel

end LiveState

end HttpRoutes
