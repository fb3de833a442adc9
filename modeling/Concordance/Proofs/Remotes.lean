/-
# Concordance.Proofs.Remotes -- a remote index answers like the index it stands for

A remote index is a name and the machine that serves it.  To look a word up, it
writes the name and the word into a path, reads that path as an address, and asks;
the machine cuts the path, decodes its parts, lower-cases the word and looks it up in
the index of that name.  To look a document up, its name travels in a form instead.

Nothing is lost on either way (`Service.reply?_termUrl`, `Service.reply?_documentUrl`):
if the name of the index is a word, the other node is asked for exactly the index and
the word, or the document, that were meant.  What it replies is heard as it was told
(`TermAnswer.decode_render`, `DocumentAnswer.decode_render`), so that over a link that
delivers (`Delivers`) the lookup completes with what the index over there holds, empty
lists and missing documents included.

A word that is not in lower case is looked up in lower case by the other node, and is
therefore left out here.
-/
import Concordance.Http.Serve
import Concordance.Index.Catalog
import Concordance.Proofs.Messages
import Concordance.Proofs.Paths

namespace Concordance

open Data Http Index Net Text Wire

set_option autoImplicit false

/-! ## Asking a service -/

/-- What of an address its machine is told: the path and the query. -/
def Net.Url.target (url : Url) : String :=
  url.path ++ (match url.query with
    | some query => "?" ++ query
    | none => "")

/-- The request for an address. -/
def Http.Request.get (url : Url) : Request :=
  { method := "GET", target := url.target, contentType := none, body := "" }

/-- An answer as it is read by who asked: a message travels as a text, and a refusal has none. -/
def Http.Answer.reply : Answer → Reply
  | .message status body => ⟨status, Json.readWhole body.render⟩
  | .refusal status _ => ⟨status, .broken⟩

/-- What a service replies to the request for an address, unless it breaks down. -/
def Service.reply? (s : Service) (url : Url) : Option Reply :=
  match (serve s (.get url)).2 with
  | .ok answer => some answer.reply
  | .error _ => none

/-- A link delivers an address to a service. -/
structure Delivers (link : Link) (s : Service) (url : Url) : Prop where
  /-- A request can carry the address, which is not too long. -/
  carries : isSendable url = true
  /-- There is a network; one of the attempts is answered, and whatever answers, it is the service
  that does. -/
  answers : ∃ send, link.network = .reach send ∧
    (∃ attempt < max 1 link.attempts, (send attempt url).isSome) ∧
    ∀ attempt reply, send attempt url = some reply → s.reply? url = some reply

/-- What is delivered is answered with the reply of the service. -/
theorem Delivers.send_eq {link : Link} {s : Service} {url : Url} (delivers : Delivers link s url)
    {reply : Reply} (replies : s.reply? url = some reply) : link.send url = .ok reply := by
  obtain ⟨send, reached, ⟨attempt, within, answered⟩, honest⟩ := delivers.answers
  have found : (List.range (max 1 link.attempts)).findSome? (fun attempt => send attempt url) =
      some reply := by
    cases search : (List.range (max 1 link.attempts)).findSome? (fun attempt => send attempt url) with
    | none =>
      have silent := List.findSome?_eq_none_iff.1 search attempt (List.mem_range.2 within)
      rw [silent] at answered
      exact absurd answered (by decide)
    | some other =>
      obtain ⟨attempt, -, sent⟩ := List.exists_of_findSome?_eq_some search
      rw [← honest attempt other sent, replies]
  rw [Link.send, reached]
  simp only [delivers.carries, if_true, found]

/-! ## Where a remote index asks -/

/-- A text without slashes at its ends keeps everything but the slash put in front of it. -/
theorem trimSlashes_cons {s : List Char} (whole : '/' ∉ s) : trimSlashes ('/' :: s) = s := by
  rw [trimSlashes, List.dropWhile_cons_of_pos (by decide)]
  exact dropEnds_of_forall (fun c mem => decide_eq_false (fun same => whole (same ▸ mem)))

theorem noSlash_of_isPlain {s : List Char} (plain : ∀ c ∈ s, isPlain c = true) : '/' ∉ s :=
  fun mem => absurd (plain _ mem) (by decide)

/-- A remote index that stands for the index of a name. -/
structure Index.Remote.StandsFor (remote : Remote) (n : String) : Prop where
  /-- The name is a word. -/
  word : isWord n = true
  /-- It is kept as it stands in the path of an address. -/
  name : remote.name = String.ofList (percentEncode encodedInPath n.toList)
  /-- The machine is one of the web. -/
  web : SchemeKind.ofName remote.base.scheme = .web

/-- What a locator has to be for a remote index to be built from it, and what that index keeps. -/
theorem Index.Remote.of_ofLocator? {locator : String} {remote : Remote}
    (built : Remote.ofLocator? locator = .ok remote) :
    ∃ url, Url.ofString? locator = .ok url ∧ url.origin? = .ok remote.base ∧
      remote.name = String.ofList (trimSlashes url.path.toList) := by
  unfold Remote.ofLocator? at built
  split at built
  · exact nomatch built
  · rename_i url read
    dsimp only at built
    split at built
    · exact nomatch built
    · split at built
      · rename_i base origin
        cases built
        exact ⟨url, read, origin, rfl⟩
      · exact nomatch built

/-- **A remote index stands for the index that its locator names.** -/
theorem Index.Remote.StandsFor.of_built {machine n : String} {remote : Remote}
    (word : isWord n = true) (named : machine.toList ≠ [])
    (plain : ∀ c ∈ machine.toList, isPlain c = true)
    (built : Remote.ofLocator? ("http://" ++ machine ++ "/" ++ n) = .ok remote) :
    remote.StandsFor n := by
  obtain ⟨url, read, origin, name⟩ := Remote.of_ofLocator? built
  have segments : ∀ segment ∈ [n.toList], IsSegment segment := by
    simpa using IsSegment.word word
  have joined : ("/" ++ n).toList = [n.toList].flatMap ('/' :: ·) := by simp
  rw [String.append_assoc,
    Url.ofString?_http named plain segments (List.cons_ne_nil _ _) joined] at read
  cases authority : readAuthority "http" .web true machine.toList with
  | error e =>
    rw [authority] at read
    exact nomatch read
  | ok parts =>
    rw [authority] at read
    cases read
    have web : SchemeKind.ofName "http" = .web := by decide
    have shown : trimSlashes ('/' :: percentEncode encodedInPath n.toList) =
        percentEncode encodedInPath n.toList :=
      trimSlashes_cons (noSlash_of_isPlain (IsSegment.encoded word).plain)
    refine ⟨word, ?_, by rw [Url.scheme_of_origin rfl origin, web]⟩
    simpa [shownPath, shown] using name

/-! ## The addresses it asks -/

/-- The segments under which a node serves the words of an index. -/
def termSegments (index term : List Char) : List (List Char) :=
  ["internal".toList, "index".toList, index, "terms".toList, term]

/-- The segments under which a node serves the documents of an index. -/
def documentSegments (index : List Char) : List (List Char) :=
  ["internal".toList, "index".toList, index, "uri".toList]

theorem termPath_toList (index term : String) :
    (termPath index term).toList = (termSegments index.toList term.toList).flatMap ('/' :: ·) := by
  simp [termPath, internalPath, termSegments]

theorem uriPath_toList (index : String) :
    (uriPath index).toList = (documentSegments index.toList).flatMap ('/' :: ·) := by
  simp [uriPath, internalPath, documentSegments]

theorem isSegment_fixed :
    IsSegment "internal".toList ∧ IsSegment "index".toList ∧ IsSegment "terms".toList ∧
      IsSegment "uri".toList :=
  ⟨.word (by decide), .word (by decide), .word (by decide), .word (by decide)⟩

theorem percentEncode_fixed :
    percentEncode encodedInPath "internal".toList = "internal".toList ∧
      percentEncode encodedInPath "index".toList = "index".toList ∧
      percentEncode encodedInPath "terms".toList = "terms".toList ∧
      percentEncode encodedInPath "uri".toList = "uri".toList := by
  refine ⟨?_, ?_, ?_, ?_⟩ <;> decide

theorem isSegment_termSegments {index term : List Char} (first : IsSegment index)
    (second : IsSegment term) : ∀ segment ∈ termSegments index term, IsSegment segment := by
  obtain ⟨internal, fixedIndex, terms, -⟩ := isSegment_fixed
  simp only [termSegments, List.forall_mem_cons]
  exact ⟨internal, fixedIndex, first, terms, second, nofun⟩

theorem isSegment_documentSegments {index : List Char} (first : IsSegment index) :
    ∀ segment ∈ documentSegments index, IsSegment segment := by
  obtain ⟨internal, fixedIndex, -, uri⟩ := isSegment_fixed
  simp only [documentSegments, List.forall_mem_cons]
  exact ⟨internal, fixedIndex, first, uri, nofun⟩

section Asked

variable {remote : Remote} {n : String}

/-- The name as it is kept is a segment. -/
theorem Index.Remote.StandsFor.isSegment_name (stands : remote.StandsFor n) :
    IsSegment remote.name.toList := by
  rw [stands.name, String.toList_ofList]
  exact .encoded stands.word

/-- The name is encoded once, whether it is encoded again or not. -/
theorem Index.Remote.StandsFor.encoded_name (stands : remote.StandsFor n) :
    percentEncode encodedInPath remote.name.toList = percentEncode encodedInPath n.toList := by
  rw [stands.name, String.toList_ofList, percentEncode_path_twice]

/-- Where a word is asked for. -/
theorem Index.Remote.StandsFor.termUrl_eq (stands : remote.StandsFor n) {t : String}
    (word : isWord t = true) :
    remote.termUrl t = { remote.base with
      path := shownPath (termSegments n.toList t.toList), query := none, fragment := none } := by
  rw [termUrl, Url.withPath_segments stands.web
    (isSegment_termSegments stands.isSegment_name (.word word))
    (List.cons_ne_nil _ _) (termPath_toList _ _)]
  simp only [shownPath, termSegments, List.map_cons, stands.encoded_name]

/-- Where a document is asked for. -/
theorem Index.Remote.StandsFor.documentUrl_eq (stands : remote.StandsFor n) (u : String) :
    remote.documentUrl u = { remote.base with
      path := shownPath (documentSegments n.toList), query := some (formPair "uri" u)
      fragment := none } := by
  rw [documentUrl, Url.withPath_segments stands.web
    (isSegment_documentSegments stands.isSegment_name)
    (List.cons_ne_nil _ _) (uriPath_toList _), Url.withField]
  simp only [shownPath, documentSegments, List.map_cons, stands.encoded_name]

end Asked

/-! ## What the service makes of them -/

/-- A path of the web, as it stands in a target, is cut from its query again. -/
theorem splitTarget_target {url : Url} {segments : List (List Char)}
    (all : ∀ segment ∈ segments, ∀ c ∈ segment, isPlain c = true) (some : segments ≠ [])
    (path : url.path = String.ofList (segments.flatMap ('/' :: ·)))
    (whole : ∀ query ∈ url.query, '#' ∉ query.toList) :
    splitTarget url.target =
      (segments.flatMap ('/' :: ·), (url.query.map String.toList).getD []) := by
  obtain ⟨-, noHash, noQuery⟩ := uncut (fun _ mem => isPlain_of_mem_segments all mem)
  obtain ⟨first, rest, rfl⟩ := List.exists_cons_of_ne_nil some
  generalize front : (first :: rest).flatMap ('/' :: ·) = p at *
  have start : ∀ tail, withoutMachine (p ++ tail) = p ++ tail := by
    intro tail
    rw [← front, List.flatMap_cons, List.cons_append, List.cons_append, withoutMachine_slash]
  cases asked : url.query with
  | none =>
    have text : url.target.toList = p ++ [] := by simp [Url.target, asked, path]
    rw [splitTarget, text, start, List.append_nil]
    simp only [splitOnce_of_notMem noHash, splitOnce_of_notMem noQuery, Option.map_none]
  | some query =>
    have text : url.target.toList = p ++ '?' :: query.toList := by simp [Url.target, asked, path]
    have uncutQuery : '#' ∉ p ++ '?' :: query.toList := by
      intro mem
      obtain mem | mem := List.mem_append.1 mem
      · exact noHash mem
      · obtain mark | mem := List.mem_cons.1 mem
        · exact absurd mark (by decide)
        · exact whole query asked mem
    rw [splitTarget, text, start]
    simp only [splitOnce_of_notMem uncutQuery, splitOnce_append noQuery, Option.map_some]

theorem isPlain_of_mem_shown {segments : List (List Char)}
    (all : ∀ segment ∈ segments, IsSegment segment) :
    ∀ shown ∈ segments.map (percentEncode encodedInPath), ∀ c ∈ shown, isPlain c = true := by
  intro shown mem
  obtain ⟨segment, listed, rfl⟩ := List.mem_map.1 mem
  exact isPlain_percentEncode (all segment listed).plain

/-- The route of a path is that of its segments. -/
theorem ofPath?_segments {segments : List (List Char)}
    (whole : ∀ segment ∈ segments, ∀ c ∈ segment, isPlain c = true) :
    Route.ofPath? (segments.flatMap ('/' :: ·)) = Route.ofSegments? segments := by
  have cut : (segments.flatMap ('/' :: ·)).splitOn '/' = [] :: segments := by
    refine splitOnP_segments rfl [] segments (fun segment mem c inside => ?_)
    obtain rfl | mem := List.mem_cons.1 mem
    · exact absurd inside List.not_mem_nil
    · exact beq_false_of_ne (isPlain_iff.1 (whole segment mem c inside)).2.1
  rw [Route.ofPath?, cut]

/-- A parameter of a path is what was encoded, if it holds no percent sign. -/
theorem pathText_percentEncode {s : String} (noPercent : '%' ∉ s.toList) :
    pathText (percentEncode encodedInPath s.toList) = .ok s := by
  rw [pathText, percentDecode_percentEncode (fun mem => absurd mem noPercent), decodeStrict_utf8,
    String.ofList_toList]

/-- Nothing is encoded as nothing only. -/
theorem percentEncode_ne_nil {s : List Char} (noPercent : '%' ∉ s) (some : s ≠ []) :
    percentEncode encodedInPath s ≠ [] := by
  intro empty
  have back : percentDecode (utf8 (percentEncode encodedInPath s)) = utf8 s :=
    percentDecode_percentEncode (fun mem => absurd mem noPercent)
  rw [empty] at back
  exact some (by rw [← decodeLossy_utf8 s, ← back]; rfl)

/-- Words hold no percent sign. -/
theorem noPercent_of_isWord {w : String} (word : isWord w = true) : '%' ∉ w.toList := fun mem =>
  (isQueryChar_plain ((isWord_iff.1 word).2 _ mem)).2.2 rfl

/-- A question that reads is answered as its route says. -/
theorem Service.reply?_of_dispatch {s : Service} {url : Url} {path query : List Char} {route : Route}
    {answer : Answer} (cut : splitTarget url.target = (path, query))
    (found : Route.ofPath? path = some route) (method : route.method = "GET")
    (answered : dispatch s (.get url) query route = .ok (s, .ok answer)) :
    s.reply? url = some answer.reply := by
  have asked : (Request.get url).target = url.target ∧ (Request.get url).method = "GET" := ⟨rfl, rfl⟩
  have noHead : ("GET" = "HEAD") = False := by decide
  rw [Service.reply?, serve, asked.1, cut]
  simp only [found, asked.2, method, answered, noHead, decide_true, decide_false, Bool.false_and,
    Bool.or_false, if_true, Bool.false_eq_true, if_false]

section Replies

variable {remote : Remote} {n : String}

/-- **Asked for a word**, the service replies with the entries of that word in that index. -/
theorem Service.reply?_termUrl (s : Service) (stands : remote.StandsFor n) {t : String}
    (word : isWord t = true) : s.reply? (remote.termUrl t) = some (terms s n t).reply := by
  have plain := isPlain_of_mem_shown (isSegment_termSegments (.word stands.word) (.word word))
  have route : Route.ofPath? (((termSegments n.toList t.toList).map
      (percentEncode encodedInPath)).flatMap ('/' :: ·)) =
      some (.terms (percentEncode encodedInPath n.toList) (percentEncode encodedInPath t.toList)) := by
    rw [ofPath?_segments plain]
    obtain ⟨internal, index, terms, -⟩ := percentEncode_fixed
    have filled := percentEncode_ne_nil (noPercent_of_isWord word) (isWord_iff.1 word).1
    simp only [termSegments, List.map_cons, List.map_nil, internal, index, terms, Route.ofSegments?,
      filled, ne_eq, not_false_eq_true, and_self, if_true]
  rw [stands.termUrl_eq word]
  refine Service.reply?_of_dispatch (splitTarget_target plain (by simp [termSegments]) rfl nofun) route
    rfl ?_
  simp only [dispatch, pathText_percentEncode (noPercent_of_isWord stands.word),
    pathText_percentEncode (noPercent_of_isWord word)]
  rfl

/-- The one value of a form is found under its name. -/
theorem readRequired_formPair (name value : String) :
    readRequired (formPair name value).toList name = .ok value := by
  have same : decide ((name, value).1 = name) = true := decide_eq_true rfl
  rw [readRequired, readForm_formPair, queryField, List.filter_singleton, same, cond_true]
  rfl

/-- **Asked for a document**, the service replies with the description of that document in that
index. -/
theorem Service.reply?_documentUrl (s : Service) (stands : remote.StandsFor n) (u : String) :
    s.reply? (remote.documentUrl u) = some (document s n u).reply := by
  have plain := isPlain_of_mem_shown (isSegment_documentSegments (.word stands.word))
  have route : Route.ofPath? (((documentSegments n.toList).map
      (percentEncode encodedInPath)).flatMap ('/' :: ·)) =
      some (.document (percentEncode encodedInPath n.toList)) := by
    rw [ofPath?_segments plain]
    obtain ⟨internal, index, -, uri⟩ := percentEncode_fixed
    simp only [documentSegments, List.map_cons, List.map_nil, internal, index, uri,
      Route.ofSegments?, and_self, if_true]
  have whole : '#' ∉ (formPair "uri" u).toList := by
    intro mem
    simp only [formPair, String.toList_append, List.mem_append] at mem
    obtain (mem | mem) | mem := mem
    · exact formEncode_whole "uri" (.inr (.inr (.inl rfl))) mem
    · exact absurd mem (by decide)
    · exact formEncode_whole u (.inr (.inr (.inl rfl))) mem
  rw [stands.documentUrl_eq u]
  refine Service.reply?_of_dispatch (splitTarget_target plain (by simp [documentSegments]) rfl ?_)
    route rfl ?_
  · rintro query ⟨⟩
    exact whole
  · simp only [dispatch, pathText_percentEncode (noPercent_of_isWord stands.word), Option.map_some,
      Option.getD_some]
    simp only [bind, Except.bind, readRequired_formPair]
    rfl

end Replies

/-! ## A remote index is the index it stands for -/

theorem isSuccess_ok : isSuccess 200 = true := by decide

section Answers

variable {s : Service} {asking : Catalog} {remote : Remote} {n : String} {memory : Memory}

/-- Over a link that delivers, a remote index finds of a word what its node holds. -/
theorem Index.Remote.StandsFor.ask_outcome (stands : remote.StandsFor n)
    (held : s.catalog.local? n = some memory) {t : String} (word : isWord t = true)
    (lower : lowercase t = t) (delivers : Delivers asking.link s (remote.termUrl t)) :
    (asking.ask (.remote remote) t).outcome = .complete (memory.lookup t) := by
  have answer : terms s n t =
      .message 200 (TermAnswer.encode { term := t, entries := memory.lookup t }) := by
    rw [terms, held, lower]
  have reply := delivers.send_eq (s.reply?_termUrl stands word)
  have heard := TermAnswer.decode_render { term := t, entries := memory.lookup t }
  have entries : remote.askTerm asking.link t = .ok (memory.lookup t) := by
    have found : ¬ 200 = 404 := by decide
    rw [askTerm, reply, answer, Answer.reply]
    simp only [found, if_false, isSuccess_ok, if_true, heard]
  rw [Catalog.ask, entries]
  rfl

/-- Over a link that delivers, a remote index knows of a document what its node holds. -/
theorem Index.Remote.StandsFor.describe_outcome (stands : remote.StandsFor n)
    (held : s.catalog.local? n = some memory) {u : String}
    (fit : ∀ d ∈ memory.description? u, CountsFit d)
    (delivers : Delivers asking.link s (remote.documentUrl u)) :
    (asking.describe (.remote remote) u).outcome = .complete (memory.description? u) := by
  have answer : document s n u =
      .message 200 (DocumentAnswer.encode { entry := memory.description? u }) := by
    rw [document, held]
  have reply := delivers.send_eq (s.reply?_documentUrl stands u)
  have heard : DocumentAnswer.decode (Json.readWhole
      (DocumentAnswer.encode { entry := memory.description? u }).render) =
      .ok { entry := memory.description? u } := DocumentAnswer.decode_render fit
  have entry : remote.askDocument asking.link u = .ok (memory.description? u) := by
    rw [askDocument, reply, answer, Answer.reply]
    simp only [isSuccess_ok, if_true, heard]
  rw [Catalog.describe, entry]
  rfl

/-- **A remote index answers like the index it stands for.** If a service holds an index whose name
is a word, then a remote index that was built from the address of a machine and that name finds, for
every word in lower case and for every document whatsoever, exactly what the index itself finds.
The link has to deliver to that service what is asked, and the counts of documents are 64-bit words
there. -/
theorem Index.Catalog.remote_answers_as_held {machine : String}
    (held : s.catalog.local? n = some memory) (word : isWord n = true)
    (named : machine.toList ≠ []) (plain : ∀ c ∈ machine.toList, isPlain c = true)
    (built : Remote.ofLocator? ("http://" ++ machine ++ "/" ++ n) = .ok remote)
    (fit : ∀ u, ∀ d ∈ memory.description? u, CountsFit d) :
    (∀ t, isWord t = true → lowercase t = t → Delivers asking.link s (remote.termUrl t) →
      (asking.ask (.remote remote) t).outcome = .complete (memory.lookup t)) ∧
    (∀ u, Delivers asking.link s (remote.documentUrl u) →
      (asking.describe (.remote remote) u).outcome = .complete (memory.description? u)) := by
  have stands := Remote.StandsFor.of_built word named plain built
  exact ⟨fun _ wordAsked lower delivers => stands.ask_outcome held wordAsked lower delivers,
    fun u delivers => stands.describe_outcome held (fit u) delivers⟩

end Answers

/-! ## One word and one document over a link -/

/-- An index of one document, whose name has to be encoded in a form. -/
def noirIndex : Memory := (Memory.empty.add "a&b" none "Chat noir").1

/-- A service that holds that index under a name that has to be encoded in an address. -/
def noirService : Service :=
  let link : Link := ⟨.absent, 1⟩
  { Service.start link with catalog := (Catalog.empty link).putLocal "été" noirIndex }

/-- A catalog with a link on which the service answers no sooner than at the second attempt. -/
def noirAsking : Catalog :=
  .empty ⟨.reach (fun attempt url => if attempt = 1 then noirService.reply? url else none), 2⟩

/-- The remote index that stands for the index of that service. -/
def noirRemote : Remote :=
  ⟨"http://[::1]:8080/été", ⟨"http", some (.v6 [0, 0, 0, 0, 0, 0, 0, 1]), some 8080, "/", none, none⟩,
    "%C3%A9t%C3%A9"⟩

theorem noirRemote_built :
    Remote.ofLocator? ("http://" ++ "[::1]:8080" ++ "/" ++ "été") = .ok noirRemote := by cbv

theorem noirService_holds : noirService.catalog.local? "été" = some noirIndex := by
  simp [noirService, Catalog.putLocal, Catalog.local?, SortedMap.find?_insert]

theorem noirIndex_lookup :
    noirIndex.lookup "chat" = [⟨"chat", "a&b", SortedSet.ofList [0]⟩] := by cbv

theorem noirIndex_description : noirIndex.description? "a&b" = some ⟨"a&b", none, 2, 2⟩ := by cbv

theorem noirIndex_fits (u : String) : ∀ d ∈ noirIndex.description? u, CountsFit d := by
  intro d known
  by_cases here : u = "a&b"
  · subst here
    rw [noirIndex_description] at known
    cases known
    exact ⟨by decide, by decide⟩
  · have unknown : noirIndex.description? u = none := by
      rw [noirIndex, Memory.description?, Memory.add, SortedMap.find?_insert, if_neg here]
      rfl
    rw [unknown] at known
    exact nomatch known

theorem delivers_noir {url : Url} (carries : isSendable url = true)
    (replies : (noirService.reply? url).isSome) : Delivers noirAsking.link noirService url := by
  refine ⟨carries, _, rfl, ⟨1, by decide, replies⟩, fun attempt reply sent => ?_⟩
  split at sent
  · exact sent
  · exact nomatch sent

theorem isSendable_noir_term : isSendable (noirRemote.termUrl "chat") = true := by cbv

theorem isSendable_noir_document : isSendable (noirRemote.documentUrl "a&b") = true := by cbv

theorem lowercase_chat : lowercase "chat" = "chat" := by cbv

theorem remote_answers_as_held_noir :
    (noirAsking.ask (.remote noirRemote) "chat").outcome =
        .complete [⟨"chat", "a&b", SortedSet.ofList [0]⟩] ∧
      (noirAsking.describe (.remote noirRemote) "a&b").outcome =
        .complete (some ⟨"a&b", none, 2, 2⟩) := by
  have word : isWord "été" = true := by decide
  have asked : isWord "chat" = true := by decide
  have named : "[::1]:8080".toList ≠ [] := by decide
  have plain : ∀ c ∈ "[::1]:8080".toList, isPlain c = true := by simp [isPlain]
  have stands := Remote.StandsFor.of_built word named plain noirRemote_built
  have term : Delivers noirAsking.link noirService (noirRemote.termUrl "chat") :=
    delivers_noir isSendable_noir_term (by rw [noirService.reply?_termUrl stands asked]; rfl)
  have document : Delivers noirAsking.link noirService (noirRemote.documentUrl "a&b") :=
    delivers_noir isSendable_noir_document (by rw [noirService.reply?_documentUrl stands]; rfl)
  obtain ⟨words, documents⟩ :=
    Catalog.remote_answers_as_held noirService_holds word named plain noirRemote_built noirIndex_fits
  exact ⟨(words "chat" asked lowercase_chat term).trans (congrArg _ noirIndex_lookup),
    (documents "a&b" document).trans (congrArg _ noirIndex_description)⟩

end Concordance
