/-
# The reason of a login that is refused

A login is refused by every answer that is no success. The reason is the text that the body
has under `error`, and there is one in the body when it arrives whole and is an object,
whose last member of that name is a text; in every other case the reason is that of the
console itself.

What the user is told of a failed call elsewhere is found in the same place, but there a
text that is empty does not count. So the two agree on every answer but those that give an
empty text: the login is then refused for a reason without a word in it.

Key definitions: `Answer.Says`, `Denial.Explains`.
Key theorems: `Answer.says_iff`, `Session.login_refused`.
-/
import ProxyConsole.Proofs.Login
import ProxyConsole.Proofs.Members
import ProxyConsole.Proofs.Payload

namespace ProxyConsole

/-! ### What a body says -/

/-- The body of an answer arrived whole and is an object, whose last member `error` is a
text. -/
def Answer.Says (a : Answer) (text : String) : Prop :=
  a.whole = true ∧ ∃ ms g o, (Outline.object ms .closed).Padded a.body ∧ Outline.Named ms g ∧
    g.AreValues (Outline.maxDepth - 1) ∧ g.last? "error" = some o ∧ Decode.string o = .ok text

/-- A text is read as a value exactly where it is read as a text. -/
theorem Outline.toJson_eq_string {d : Nat} {o : Outline} {s : String} :
    o.toJson d = .ok (.string s) ↔ Decode.string o = .ok s := by
  cases o with
  | leaf l =>
    cases l with
    | string t =>
      rw [toJson, Decode.string, Decode.map_eq_ok, Decode.wellFormed_eq_ok]
      simp
    | number n => simp [toJson, Decode.string, Decode.map_eq_ok]
    | _ => simp [toJson, Decode.string]
  | array os stop =>
    cases d with
    | zero => simp [toJson, Decode.string]
    | succ d => simp [toJson, Decode.string, bind_eq_ok, pure, Except.pure]
  | object ms stop =>
    cases d with
    | zero => simp [toJson, Decode.string]
    | succ d => simp [toJson_object_eq_ok, Decode.string]

/-- Only an object has members. -/
theorem Json.eq_object_of_member? {v w : Json} {name : String} (h : v.member? name = some w) :
    ∃ ms, v = object ms := by
  cases v with
  | object ms => exact ⟨ms, rfl⟩
  | _ => cases h

/-- An object that is read as a value is the object of a text. -/
theorem Outline.object_of_toJson {d : Nat} {o : Outline} {vs : List (String × Json)}
    (h : o.toJson (d + 1) = .ok (.object vs)) :
    ∃ ms, o = .object ms .closed ∧ toJsonMembers d [] ms = .ok vs := by
  cases o with
  | leaf l => cases l <;> simp [toJson, Decode.map_eq_ok] at h
  | array os stop => simp [toJson, bind_eq_ok, pure, Except.pure] at h
  | object ms stop =>
    obtain ⟨rfl, ws, hws, he⟩ := toJson_object_eq_ok.mp h
    cases he
    exact ⟨ms, rfl, hws⟩

namespace Answer

/-- The value of a body that can be read. -/
theorem json_of_whole {a : Answer} {o : Outline} {v : Json} (hw : a.whole = true)
    (ho : o.Padded a.body) (hv : o.toJson Outline.maxDepth = .ok v) : a.json = v := by
  have hd : Decode.json a.body = .ok v := by
    rw [Decode.json, Decode.document_of_padded ho, Decode.value, hv]
    rfl
  rw [json, if_pos hw, hd]
  rfl

/-- A body with members arrived whole and is an object. -/
theorem object_of_json {a : Answer} {vs : List (String × Json)} (h : a.json = .object vs) :
    a.whole = true ∧ ∃ ms, (Outline.object ms .closed).Padded a.body ∧
      Outline.toJsonMembers (Outline.maxDepth - 1) [] ms = .ok vs := by
  unfold json at h
  split at h
  · next hw =>
    refine ⟨hw, ?_⟩
    cases hd : Decode.json a.body with
    | error m =>
      rw [hd] at h
      cases h
    | ok v =>
      rw [hd] at h
      obtain ⟨o, hread, hv⟩ := Decode.document_eq_ok.mp hd
      have hv : o.toJson Outline.maxDepth = .ok (.object vs) := by
        rw [Decode.wellFormed_eq_ok.mp hv]
        exact congrArg Except.ok h
      have hpad := Outline.read_iff_padded.mp ⟨hread, Outline.skip_of_toJson hv⟩
      obtain ⟨ms, rfl, hms⟩ := Outline.object_of_toJson hv
      exact ⟨ms, hpad, hms⟩
  · cases h

/-- **What a body says** is the text that it has as a value under `error`. -/
theorem says_iff {a : Answer} {text : String} :
    a.Says text ↔ (a.json.member? "error").bind Json.string? = some text := by
  have hstring : ∀ v : Json, v.string? = some text ↔ v = .string text := by
    intro v
    cases v <;> simp [Json.string?]
  simp only [Option.bind_eq_some_iff, hstring, exists_eq_right]
  constructor
  · rintro ⟨hw, ms, g, o, hpad, hg, hvalues, hlast, ho⟩
    obtain ⟨vs, hvs⟩ := Outline.exists_toJsonMembers hg hvalues []
    obtain ⟨g', hg', -, hmember⟩ := Outline.toJsonMembers_eq_ok hvs
    have hv : (Outline.object ms .closed).toJson Outline.maxDepth = .ok (.object vs) :=
      Outline.toJson_object_eq_ok.mpr ⟨rfl, vs, hvs, rfl⟩
    rw [json_of_whole hw hpad hv, hmember, ← hg.unique hg', hlast, Option.bind_some,
      Outline.toJson_eq_string.mpr ho]
    rfl
  · intro h
    obtain ⟨vs, hvs⟩ := Json.eq_object_of_member? h
    obtain ⟨hw, ms, hpad, hms⟩ := object_of_json hvs
    obtain ⟨g, hg, hvalues, hmember⟩ := Outline.toJsonMembers_eq_ok hms
    rw [hvs, hmember, show (Json.object []).member? "error" = none from rfl, Option.or_none,
      Option.bind_eq_some_iff] at h
    obtain ⟨o, hlast, ho⟩ := h
    exact ⟨hw, ms, g, o, hpad, hg, hvalues, hlast,
      Outline.toJson_eq_string.mp (toOption_eq_some.mp ho)⟩

end Answer

/-! ### Reasons -/

/-- The reason that an answer is refused for: what the body says, word for word, and the
console's own reason when it says nothing. Where the body says a text with a word in it,
that is also what the user is shown of a failed call; so the reason parts from the text that
counts there only where the body says an empty text, and only then is it empty. -/
structure Denial.Explains (a : Answer) (reason : String) : Prop where
  said : ∀ text, a.Says text → reason = text
  unsaid : (∀ text, ¬ a.Says text) → reason = defaultReason
  shown : ∀ text, text ≠ "" → a.Says text → (Payload.mk (some a.status) a.json).shown = text
  usable_iff : reason = (Payload.reason? a.json).getD defaultReason ↔ ¬ a.Says ""
  empty_iff : reason = "" ↔ a.Says ""

namespace Denial

/-- The text that counts for the user is the one in the body, unless that is empty. -/
theorem reason?_eq (body : Json) : Payload.reason? body =
    ((body.member? "error").bind Json.string?).filter fun text => !text.isEmpty := by
  unfold Payload.reason?
  cases (body.member? "error").bind Json.string? with
  | none => rfl
  | some text => cases he : text.isEmpty <;> simp [Option.filter, he]

theorem explains (a : Answer) : Explains a
    (((a.json.member? "error").bind Json.string?).getD defaultReason) := by
  have hd : defaultReason ≠ "" := by decide
  have hreason := reason?_eq a.json
  have hword (text : String) : a.Says text ↔ (a.json.member? "error").bind Json.string? = some text :=
    a.says_iff
  generalize (a.json.member? "error").bind Json.string? = said at hreason hword
  have hshown (text : String) (ht : text ≠ "") (h : a.Says text) :
      Payload.reason? a.json = some text := by
    rw [hreason, (hword text).mp h]
    simp [Option.filter, ht]
  refine ⟨fun text h => ?_, fun h => ?_, fun text ht h => ?_, ?_, ?_⟩
  · rw [(hword text).mp h, Option.getD_some]
  · rw [Option.eq_none_iff_forall_ne_some.mpr fun text => mt (hword text).mpr (h text),
      Option.getD_none]
  · rw [Payload.shown, hshown text ht h]
  · rw [hreason, hword]
    cases said with
    | none => simp
    | some text => by_cases ht : text = "" <;> simp [Option.filter, ht, hd.symm]
  · rw [hword]
    cases said with
    | none => simpa using hd
    | some text => simp

end Denial

/-! ### Logins that are refused -/

namespace Session

/-- **A login is refused for the reason that the answer gives.** Whatever the body of an
answer that is no success, the login fails with a reason that the body explains, and does
nothing beyond sending its request. -/
theorem login_refused {c : Setup} {credentials : Credentials} {s : Session} {a : Answer}
    (ha : (s.send c (loginRequest c credentials)).1 = .ok a) (hn : a.isSuccess = false) :
    ∃ reason, s.login c credentials =
        (.error (.auth (.rejected reason)), (s.send c (loginRequest c credentials)).2) ∧
      Denial.Explains a reason := by
  refine ⟨_, ?_, Denial.explains a⟩
  unfold login
  generalize s.send c (loginRequest c credentials) = x at ha ⊢
  obtain ⟨r, u⟩ := x
  cases ha
  dsimp only
  rw [tokenOf, hn]
  rfl

/-- A session without a token, at a server that gives one answer. -/
def answered (a : Answer) : Session :=
  .start (.memory none) ⟨true, [.answer a], []⟩

/-- A denial with two members `error`, of which the last is a text. -/
def locked : Answer :=
  ⟨401, Utf8.bytes "\x7b\"error\":1,\"error\":\"locked\"\x7d", true⟩

theorem login_refused_locked :
    ((answered locked).send .loopback (loginRequest .loopback ⟨"a@x", "p"⟩)).1 = .ok locked ∧
    locked.isSuccess = false ∧
    ∃ reason, (answered locked).login .loopback ⟨"a@x", "p"⟩ =
        (.error (.auth (.rejected reason)),
          ((answered locked).send .loopback (loginRequest .loopback ⟨"a@x", "p"⟩)).2) ∧
      Denial.Explains locked reason := by
  have ha : ((answered locked).send .loopback (loginRequest .loopback ⟨"a@x", "p"⟩)).1 =
      .ok locked := toOption_eq_some.mp (by decide +kernel)
  exact ⟨ha, by decide, login_refused ha (by decide)⟩

/-- An answer whose `error` is an empty text. -/
def wordless : Answer :=
  ⟨404, Utf8.bytes "\x7b\"error\":\"\"\x7d", true⟩

/-- The reason is empty where the user would be shown the text for want of a better one. -/
theorem login_wordless :
    (((answered wordless).login .loopback ⟨"a@x", "p"⟩).1.map Token.text).mapError Failure.message =
      .error "authentication failed: " ∧
    Payload.reason? wordless.json = none ∧ Denial.defaultReason ≠ "" := by
  decide +kernel

end Session
end ProxyConsole
