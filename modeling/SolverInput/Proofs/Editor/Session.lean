import SolverInput.Editor.Session
import Mathlib.Data.List.Basic

/-!
# Sessions by their history

A session carries documents and settings from call to call, but the text that it holds for a
document does not need a state: the last call that touched the document decides it
(`Call.lastText?`), and the settings come from the payloads alone (`Call.payload?`). Here one step
lemma for each says what a single call does (`get?_handle`, `settings_handle`), an induction over
the calls what a whole history does (`get?_after`, `settings_after`), and the replies to requests
follow.
-/

namespace SolverInput.Editor

/-! ## Open documents -/

namespace Documents

lemma get?_cons (v text : String) (rest : List (String × String)) (u : String) :
    get? ⟨(v, text) :: rest⟩ u = if u = v then some text else get? ⟨rest⟩ u := by
  unfold get?
  rw [List.lookup_cons]
  by_cases hu : u = v
  · rw [if_pos hu, beq_iff_eq.2 hu]
  · rw [if_neg hu, beq_false_of_ne hu]

lemma get?_erase (docs : Documents) (uri u : String) :
    (docs.erase uri).get? u = if u = uri then none else docs.get? u := by
  obtain ⟨entries⟩ := docs
  unfold erase
  induction entries with
  | nil => simp [get?]
  | cons entry rest ih =>
    obtain ⟨v, text⟩ := entry
    rw [get?_cons]
    by_cases hv : v = uri
    · rw [List.filter_cons_of_neg (by simpa using hv), ih]
      by_cases hu : u = uri
      · rw [if_pos hu, if_pos hu]
      · rw [if_neg hu, if_neg hu, if_neg fun h => hu (h.trans hv)]
    · rw [List.filter_cons_of_pos (by simpa using hv), get?_cons, ih]
      by_cases hu : u = v
      · rw [if_pos hu, if_pos hu, if_neg fun h => hv (hu.symm.trans h)]
      · rw [if_neg hu, if_neg hu]

lemma get?_put (docs : Documents) (uri text u : String) :
    (docs.put uri text).get? u = if u = uri then some text else docs.get? u := by
  unfold put
  rw [get?_cons]
  by_cases hu : u = uri
  · rw [if_pos hu, if_pos hu]
  · have herase := get?_erase docs uri u
    rw [if_neg hu] at herase
    rw [if_neg hu, if_neg hu]
    exact herase

end Documents

/-! ## What one call does -/

namespace Call

/-- The text that a call gives to a document: that of an opening, or the last one of a change. -/
def text? (uri : String) : Call → Option String
  | opened u text => if u = uri then some text else none
  | changed u texts => if u = uri then texts.getLast? else none
  | _ => none

/-- Tells whether a call closes a document. -/
def closes (uri : String) : Call → Bool
  | closed u => u = uri
  | _ => false

/-- Tells whether a call touches a document: it gives it a text or closes it. -/
def touches (uri : String) (call : Call) : Bool :=
  (call.text? uri).isSome || call.closes uri

/-- A call that closes a document gives it no text. -/
lemma text?_of_closes {uri : String} {call : Call} (h : call.closes uri = true) :
    call.text? uri = none := by
  cases call with
  | closed u => rfl
  | _ => cases h

/-- The text of a document by the last call that touched it. -/
def lastText? (uri : String) (calls : List Call) : Option String :=
  (calls.reverse.find? (touches uri)).bind (text? uri)

/-- A text is held if some call gave it and no later call touched the document. -/
lemma lastText?_eq_some_iff {uri text : String} {calls : List Call} :
    lastText? uri calls = some text ↔
      ∃ before call later, calls = before ++ call :: later ∧ call.text? uri = some text ∧
        ∀ c ∈ later, c.touches uri = false := by
  unfold lastText?
  rw [Option.bind_eq_some_iff]
  constructor
  · rintro ⟨call, hfind, htext⟩
    obtain ⟨-, later, before, hcalls, hlater⟩ := List.find?_eq_some_iff_append.1 hfind
    refine ⟨before.reverse, call, later.reverse, ?_, htext, fun c hc => ?_⟩
    · rw [← List.reverse_reverse calls, hcalls]
      simp
    · simpa using hlater c (List.mem_reverse.1 hc)
  · rintro ⟨before, call, later, rfl, htext, hlater⟩
    refine ⟨call, List.find?_eq_some_iff_append.2 ⟨by simp [touches, htext], ?_⟩, htext⟩
    refine ⟨later.reverse, before.reverse, by simp, fun c hc => ?_⟩
    simp [hlater c (List.mem_reverse.1 hc)]

/-- No text is held if every text that was given is followed by a closing. -/
lemma lastText?_eq_none_iff {uri : String} {calls : List Call} :
    lastText? uri calls = none ↔
      ∀ before call later, calls = before ++ call :: later → (call.text? uri).isSome = true →
        ∃ c ∈ later, c.closes uri = true := by
  constructor
  · rintro hnone before call later rfl htext
    rw [lastText?, List.reverse_append, List.reverse_cons, List.append_assoc,
      List.find?_append] at hnone
    cases hfind : later.reverse.find? (touches uri) with
    | some c =>
      -- the last call that touched the document came later and gave it no text
      rw [hfind] at hnone
      have hgives : c.text? uri = none := hnone
      have htouches : c.touches uri = true := List.find?_some hfind
      refine ⟨c, List.mem_reverse.1 (List.mem_of_find?_eq_some hfind), ?_⟩
      simpa [touches, hgives] using htouches
    | none =>
      have htouches : call.touches uri = true := by simp [touches, htext]
      have hgives : call.text? uri = none := by simpa [hfind, htouches] using hnone
      rw [hgives] at htext
      cases htext
  · intro hclosed
    rw [Option.eq_none_iff_forall_ne_some]
    intro text hsome
    -- the closing after the last text would have touched the document
    obtain ⟨before, call, later, hcalls, htext, hlater⟩ := lastText?_eq_some_iff.1 hsome
    obtain ⟨c, hc, hcloses⟩ := hclosed before call later hcalls (by simp [htext])
    have htouches := hlater c hc
    simp [touches, hcloses] at htouches

/-- The settings payload of a call: its options at the start, or a new configuration. -/
def payload? : Call → Option Json
  | handshake options => options
  | configured payload => some payload
  | _ => none

end Call

namespace Session

/-- A request leaves the session as it is. -/
lemma session_handle_request (s : Session) (files : FileTree) {call : Call}
    (hdoc : ∀ uri, call.touches uri = false) (hpayload : call.payload? = none) :
    (s.handle files call).session = s := by
  cases call with
  | handshake options =>
    obtain rfl : options = none := hpayload
    rfl
  | opened u text => simpa [Call.touches, Call.text?] using hdoc u
  | changed u texts =>
    have hlast : texts.getLast? = none := by
      simpa [Call.touches, Call.text?, Call.closes] using hdoc u
    simp only [handle, hlast]
  | closed u => simpa [Call.touches, Call.closes] using hdoc u
  | configured payload => simp [Call.payload?] at hpayload
  | semanticTokens u =>
    simp only [handle]
    split <;> rfl
  | completion u position =>
    simp only [handle]
    split <;> rfl
  | execute command arguments =>
    simp only [handle]
    split <;> rfl
  | _ => rfl

/-- A call that closes a document forgets its text, a call that gives one sets it, and every other
call leaves it. -/
lemma get?_handle (s : Session) (files : FileTree) (call : Call) (uri : String) :
    (s.handle files call).session.documents.get? uri
      = if call.closes uri then none else (call.text? uri).or (s.documents.get? uri) := by
  cases call with
  | opened u text =>
    simp only [handle, Call.closes, Call.text?, Documents.get?_put]
    by_cases hu : u = uri
    · simp [hu]
    · simp [hu, Ne.symm hu]
  | changed u texts =>
    simp only [handle, Call.closes, Call.text?]
    cases hlast : texts.getLast? with
    | none => simp
    | some text =>
      simp only [Documents.get?_put]
      by_cases hu : u = uri
      · simp [hu]
      · simp [hu, Ne.symm hu]
  | closed u =>
    simp only [handle, Call.closes, Call.text?, Documents.get?_erase]
    by_cases hu : u = uri
    · simp [hu]
    · simp [hu, Ne.symm hu]
  | handshake options => cases options <;> rfl
  | configured payload => rfl
  | _ =>
    rw [session_handle_request]
    · rfl
    · exact fun _ => rfl
    · rfl

/-- The settings after a payload; a malformed one leaves them. -/
def configure (defaults current : Settings) (payload : Json) : Settings :=
  (Settings.apply defaults current payload).1

/-- Apart from its documents, a call changes a session only by its payload. -/
lemma settings_handle (s : Session) (files : FileTree) (call : Call) :
    let s' := (s.handle files call).session
    s'.settings = call.payload?.toList.foldl (configure s.defaults) s.settings ∧
      s'.defaults = s.defaults ∧ s'.dictionary = s.dictionary := by
  cases call with
  | handshake options => cases options <;> exact ⟨rfl, rfl, rfl⟩
  | configured payload => exact ⟨rfl, rfl, rfl⟩
  | opened u text => exact ⟨rfl, rfl, rfl⟩
  | changed u texts =>
    simp only [handle]
    split <;> exact ⟨rfl, rfl, rfl⟩
  | closed u => exact ⟨rfl, rfl, rfl⟩
  | _ =>
    rw [session_handle_request]
    · exact ⟨rfl, rfl, rfl⟩
    · exact fun _ => rfl
    · rfl

/-! ## What a history does -/

/-- The session and the files after consecutive calls. -/
def after (s : Session) (files : FileTree) : List Call → Session × FileTree
  | [] => (s, files)
  | call :: rest =>
    let outcome := s.handle files call
    outcome.session.after outcome.files rest

/-- The last call that touched a document decides its text, and if there was none, the text is that
of before. -/
lemma get?_after (s : Session) (files : FileTree) (calls : List Call) (uri : String) :
    (s.after files calls).1.documents.get? uri
      = match calls.reverse.find? (Call.touches uri) with
        | some call => call.text? uri
        | none => s.documents.get? uri := by
  induction calls generalizing s files with
  | nil => rfl
  | cons call rest ih =>
    rw [after, ih, get?_handle, List.reverse_cons, List.find?_append]
    cases rest.reverse.find? (Call.touches uri) with
    | some last => rfl
    | none =>
      -- no later call touches the document, so it is this call that decides
      by_cases hcloses : call.closes uri = true
      · simp [Call.touches, hcloses, Call.text?_of_closes hcloses]
      · cases htext : call.text? uri <;> simp [Call.touches, hcloses, htext]

/-- The settings come from the payloads alone, one after another. -/
lemma settings_after (s : Session) (files : FileTree) (calls : List Call) :
    let s' := (s.after files calls).1
    s'.settings = (calls.filterMap Call.payload?).foldl (configure s.defaults) s.settings ∧
      s'.dictionary = s.dictionary := by
  induction calls generalizing s files with
  | nil => exact ⟨rfl, rfl⟩
  | cons call rest ih =>
    obtain ⟨hsettings, hdefaults, hdictionary⟩ := settings_handle s files call
    have hrest := ih (s.handle files call).session (s.handle files call).files
    rw [hdefaults, hsettings, hdictionary] at hrest
    rw [after, List.filterMap_cons]
    cases hpayload : call.payload? with
    | none => simpa [hpayload] using hrest
    | some payload => simpa [hpayload] using hrest

/-- A session that has just started holds what the last call that touched a document says. -/
lemma get?_after_start (settings : Settings) (dictionary : Dictionary)
    (startup : List StartupLine) (files : FileTree) (calls : List Call) (uri : String) :
    ((start settings dictionary startup).after files calls).1.documents.get? uri
      = Call.lastText? uri calls := by
  rw [get?_after]
  unfold Call.lastText?
  cases calls.reverse.find? (Call.touches uri) <;> rfl

/-- **The text of a document is decided by the last call that touched it**, whatever else was
called, in whatever order and with whatever files. Over every history of a session that has just
started: the text held for `uri` is `Call.lastText?`, which is the last text given to it after its
last closing, and none if there is no such text; requests for highlighting and completion answer
null if no text is held and otherwise from that text, the settings that the payloads left and the
dictionary of the start; and a call that does not touch `uri` leaves its text alone. -/
theorem documents_decided_by_last_call (settings : Settings) (dictionary : Dictionary)
    (startup : List StartupLine) (files : FileTree) (calls : List Call) (uri : String) :
    let s := ((start settings dictionary startup).after files calls).1
    let held := Call.lastText? uri calls
    let current := (calls.filterMap Call.payload?).foldl (configure settings) settings
    s.documents.get? uri = held ∧
    (∀ text, held = some text ↔
      ∃ before call later, calls = before ++ call :: later ∧ call.text? uri = some text ∧
        ∀ c ∈ later, c.touches uri = false) ∧
    (held = none ↔
      ∀ before call later, calls = before ++ call :: later → (call.text? uri).isSome = true →
        ∃ c ∈ later, c.closes uri = true) ∧
    (∀ files', (s.handle files' (.semanticTokens uri)).reply
      = match held with
        | none => .null
        | some text => .tokens
          (if current.semanticHighlighting then
            SemanticToken.encode (SemanticToken.ofText text.toList) else [])) ∧
    (∀ files' position, (s.handle files' (.completion uri position)).reply
      = match held with
        | none => .null
        | some text => .candidates (dictionary.completions (textBefore text.toList position))) ∧
    (∀ files' call, call.touches uri = false →
      (s.handle files' call).session.documents.get? uri = held) := by
  intro s held current
  have hheld : s.documents.get? uri = held := get?_after_start ..
  have hsettings : s.settings = current := (settings_after ..).1
  have hdictionary : s.dictionary = dictionary := (settings_after ..).2
  refine ⟨hheld, fun text => Call.lastText?_eq_some_iff, Call.lastText?_eq_none_iff, ?_, ?_, ?_⟩
  · intro files'
    simp only [handle, hheld]
    cases held with
    | none => rfl
    | some text => simp only [tokensOf, hsettings]
  · intro files' position
    simp only [handle, hheld]
    cases held with
    | none => rfl
    | some text => simp only [candidatesAt, hdictionary]
  · intro files' call hcall
    rw [Call.touches, Bool.or_eq_false_iff, Option.isSome_eq_false_iff, Option.isNone_iff_eq_none]
      at hcall
    rw [get?_handle, hcall.1, hcall.2, hheld]
    rfl

/-- The last change of a document counts, only its own closing forgets it, and a change without a
text does not touch it. -/
theorem documents_decided_by_last_call_of_neighbours :
    let calls : List Call :=
      [.opened "a" "1", .changed "a" ["2", "3"], .opened "b" "4", .closed "b"]
    let s := ((start ⟨true, "txt"⟩ {} []).after {} calls).1
    (Call.changed "a" []).touches "a" = false ∧
    (s.handle {} (.changed "a" [])).session.documents.get? "a" = some "3" ∧
    s.documents.get? "b" = none := by
  intro calls s
  have htouches : (Call.changed "a" []).touches "a" = false := by decide
  have ha : Call.lastText? "a" calls = some "3" := by decide
  have hb : Call.lastText? "b" calls = none := by decide
  obtain ⟨-, -, -, -, -, hkept⟩ := documents_decided_by_last_call ⟨true, "txt"⟩ {} [] {} calls "a"
  obtain ⟨hheld, -⟩ := documents_decided_by_last_call ⟨true, "txt"⟩ {} [] {} calls "b"
  exact ⟨htouches, (hkept {} _ htouches).trans ha, hheld.trans hb⟩

end Session

end SolverInput.Editor
