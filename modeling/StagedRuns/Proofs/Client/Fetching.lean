import StagedRuns.Proofs.Client.Counting
import StagedRuns.Proofs.Url.Below

/-!
What is asked of the host of the repositories for a file. The names of repository and file are written
into the address as they are, so the file that they name is asked for exactly if they mean in a path
what they spell; only the ref is encoded.
-/

namespace StagedRuns

open StagedRuns.Http (Method Request Response Transport)
open StagedRuns.Text (Utf8.encode)
open StagedRuns.Url (IsVerbatim octets isOuterBlank)

namespace Client

theorem trimSlashes_append (text : List Char) (count : Nat) :
    trimSlashes (String.ofList (text ++ List.replicate count '/')) =
      trimSlashes (String.ofList text) := by
  have slashes : ∀ c ∈ List.replicate count '/', decide (c = '/') = true :=
    fun c member => decide_eq_true (List.eq_of_mem_replicate member)
  unfold trimSlashes
  rw [String.toList_ofList, String.toList_ofList, List.reverse_append, List.reverse_replicate,
    List.dropWhile_append_of_pos slashes]

theorem exists_slashes (address : String) :
    ∃ count, address.toList = (trimSlashes address).toList ++ List.replicate count '/' := by
  have slashes : address.toList.reverse.takeWhile (· = '/') =
      List.replicate (address.toList.reverse.takeWhile (· = '/')).length '/' := by
    refine List.eq_replicate_of_mem fun c member => ?_
    have slash := List.mem_takeWhile_imp member
    exact of_decide_eq_true slash
  refine ⟨(address.toList.reverse.takeWhile (· = '/')).length, ?_⟩
  rw [trimSlashes, String.toList_ofList, ← List.reverse_replicate, ← slashes, ← List.reverse_append,
    List.takeWhile_append_dropWhile, List.reverse_reverse]

theorem trimSlashes_of_samePlace {path other : String} (same : Url.SamePlace path other) :
    trimSlashes path = trimSlashes other := by
  obtain ⟨few, many, same⟩ := same
  have trimmed := congrArg (trimSlashes ∘ String.ofList) same
  simp only [Function.comp, trimSlashes_append, String.ofList_toList] at trimmed
  exact trimmed

end Client

namespace SourceHostClient

def placeOf (repository path : String) : String :=
  "repos/" ++ repository ++ "/contents/" ++ path

/-- Whether a URL asks for a file below a directory: its decoded path is that of the directory and of
the file, and the ref is all that its query spells. -/
structure AsksFor (url directory : Url) (repository path ref : String) : Prop where
  path : Url.Escape.decode (Utf8.encode url.pathText) =
    Url.Escape.decode (Utf8.encode directory.pathText) ++ Utf8.encode (placeOf repository path)
  query : url.query.map Url.Escape.readForm = some [("ref", ref)]

theorem toList_placeOf (repository path : String) :
    (placeOf repository path).toList =
      "repos".toList ++ '/' :: (repository.toList ++ '/' ::
        ("contents".toList ++ '/' :: path.toList)) := by
  simp [placeOf]

theorem isVerbatim_placeOf {repository path : String} :
    IsVerbatim (placeOf repository path).toList ↔
      IsVerbatim repository.toList ∧ IsVerbatim path.toList := by
  have repos : IsVerbatim "repos".toList := by decide
  have contents : IsVerbatim "contents".toList := by decide
  rw [toList_placeOf, Url.isVerbatim_slash, Url.isVerbatim_slash, Url.isVerbatim_slash]
  exact ⟨fun ⟨_, first, _, second⟩ => ⟨first, second⟩,
    fun ⟨first, second⟩ => ⟨repos, first, contents, second⟩⟩

theorem placeOf_ends (repository path : String) :
    (∀ c ∈ (placeOf repository path).toList.getLast?, isOuterBlank c = false) ↔
      ∀ c ∈ path.toList.getLast?, isOuterBlank c = false := by
  have slash : isOuterBlank '/' = false := rfl
  rw [toList_placeOf]
  cases last : path.toList.getLast? with
  | none => simp [List.getLast?_append, List.getLast?_cons, last, slash]
  | some c => simp [List.getLast?_append, List.getLast?_cons, last]

theorem decode_below (scheme : String) (authority : Url.Authority) (stack : List (List Char))
    (text : List Char) :
    Url.Escape.decode (Utf8.encode (Url.below scheme authority stack text).pathText) =
      Url.decodedPath
        (Url.addSegments false stack (Url.splitPath true (Url.pathPart text))).reverse := by
  have chars : (Url.below scheme authority stack text).pathText.toList = _ :=
    Url.pathText_segments rfl
  rw [← Url.decode_slashed, ← chars, octets, String.ofList_toList]

theorem decode_directory (scheme : String) (authority : Url.Authority) (stack : List (List Char)) :
    Url.Escape.decode (Utf8.encode (Url.below scheme authority stack []).pathText) =
      Url.decodedPath stack.reverse ++ [0x2F] := by
  have empty : Url.addSegments false stack (Url.splitPath true (Url.pathPart [])) = [] :: stack :=
    rfl
  rw [decode_below, empty, List.reverse_cons, Url.decodedPath_append]
  rfl

/-- A URL of an authority and segments asks for a file exactly if the names of the repository and the
file are verbatim. -/
theorem asksFor_below_iff (scheme : String) (authority : Url.Authority) (stack : List (List Char))
    (repository path ref : String) :
    AsksFor ((Url.below scheme authority stack (placeOf repository path).toList).withPair "ref" ref)
        (Url.below scheme authority stack []) repository path ref ↔
      IsVerbatim repository.toList ∧ IsVerbatim path.toList ∧
        ∀ c ∈ path.toList.getLast?, isOuterBlank c = false := by
  rw [← and_assoc, ← isVerbatim_placeOf, ← placeOf_ends repository path]
  have place := Url.decodedPath_below_iff stack (placeOf repository path).toList
  have octetsOf : octets (placeOf repository path).toList = Utf8.encode (placeOf repository path) := by
    rw [octets, String.ofList_toList]
  rw [octetsOf] at place
  have samePath : ((Url.below scheme authority stack (placeOf repository path).toList).withPair
        "ref" ref).pathText =
      (Url.below scheme authority stack (placeOf repository path).toList).pathText :=
    rfl
  constructor
  · rintro ⟨asked, -⟩
    rw [samePath, decode_below, decode_directory, List.append_assoc] at asked
    exact place.mp asked
  · rintro ⟨verbatim, ends⟩
    refine ⟨?_, ?_⟩
    · rw [samePath, decode_below, decode_directory, List.append_assoc]
      exact place.mpr ⟨verbatim, ends⟩
    · have bare : (Url.below scheme authority stack (placeOf repository path).toList).query = none :=
        (Url.below_bare verbatim ends authority stack).1
      have pair : ((Url.below scheme authority stack (placeOf repository path).toList).withPair
          "ref" ref).query = some (Url.Escape.form "ref" ++ "=" ++ Url.Escape.form ref) := by
        rw [Url.withPair, bare]
      rw [pair, Option.map_some, Url.Escape.readForm_pair]

theorem url_of_make? {method : Method} {address accept : String} {name value : String}
    {userAgent token : Option String} {body : Option Json} {request : Request}
    (made : Request.make? method address [(name, value)] accept userAgent token body =
      some request) :
    ∃ url, Url.parse? address = some url ∧ request.url = url.withPair name value := by
  unfold Request.make? at made
  split at made
  · cases made
  · rename_i url parsed
    dsimp only at made
    split at made
    · cases made
      exact ⟨url, parsed, rfl⟩
    · cases made

/-- For a file at most one request is sent, and it leads below the address of the host. It asks for
the file exactly if the names of the repository and the file are verbatim and the latter does not end
with a blank; what the ref is does not matter. -/
theorem fileContents_asks (answers : List Http.Exchange → Request → Option Response)
    (counters : Counters) (log : List Http.Exchange) {base : String} {url : Url}
    (based : Url.parse? base = some url) (web : url.scheme = "http" ∨ url.scheme = "https")
    (noQuery : url.query = none) (noFragment : url.fragment = none)
    (token : Option String) (repository path ref : String) :
    ∃ sent, ((((new base token).fileContents (.recorded answers) repository path ref).run
        counters).run log).2 = log ++ sent ∧
      ∀ exchange ∈ sent, ∃ directory,
        Url.parse? ((new base token).baseUrl ++ "/") = some directory ∧
        exchange.1.url = { directory with
          path := exchange.1.url.path
          query := exchange.1.url.query
          fragment := exchange.1.url.fragment } ∧
        ((∀ c ∈ base.toList.getLast?, isOuterBlank c = false) →
          directory = { url with path := directory.path } ∧
          Client.trimSlashes directory.pathText = Client.trimSlashes url.pathText) ∧
        (AsksFor exchange.1.url directory repository path ref ↔
          IsVerbatim repository.toList ∧ IsVerbatim path.toList ∧
            ∀ c ∈ path.toList.getLast?, isOuterBlank c = false) := by
  obtain ⟨count, same⟩ := Client.exists_slashes base
  obtain ⟨read, stack, reads, itself⟩ := Url.parse?_below same based web noQuery noFragment
  unfold fileContents
  cases made : (new base token).request? .get
      ((new base token).repositoryUrl repository ("contents/" ++ path)) [("ref", ref)]
      "application/vnd.github.raw" none with
  | none =>
      refine ⟨[], ?_, fun _ listed => absurd listed List.not_mem_nil⟩
      rw [Client.call_run Client.exchange_none, List.append_nil]
  | some request =>
      refine ⟨[(request, answers log request)], ?_, fun exchange listed => ?_⟩
      · rw [Client.call_run (Client.exchange_some (Client.recorded_exchange answers log request))]
      · rw [List.mem_singleton.mp listed]
        obtain ⟨asked, parsed, sent⟩ := url_of_make? made
        have address : (new base token).repositoryUrl repository ("contents/" ++ path) =
            String.ofList ((Client.trimSlashes base).toList ++
              '/' :: (placeOf repository path).toList) := by
          rw [← String.toList_inj, String.toList_ofList]
          simp [repositoryUrl, new, placeOf]
        have directory : (new base token).baseUrl ++ "/" =
            String.ofList ((Client.trimSlashes base).toList ++ '/' :: []) := by
          rw [← String.toList_inj, String.toList_ofList]
          simp [new]
        rw [address, reads] at parsed
        obtain ⟨authority, found, leads⟩ := Option.map_eq_some_iff.mp parsed
        refine ⟨Url.below url.scheme authority stack [], ?_, ?_, fun ends => ?_, ?_⟩
        · rw [directory, reads, found]
          rfl
        · rw [sent, ← leads]
          rfl
        · obtain ⟨_, foundAgain, sameUrl, samePlace⟩ := itself ends
          cases found.symm.trans foundAgain
          refine ⟨?_, (Client.trimSlashes_of_samePlace samePlace).symm⟩
          conv_rhs => rw [sameUrl]
          rfl
        · rw [sent, ← leads]
          exact asksFor_below_iff url.scheme authority stack repository path ref

def sampleRequests (path : String) : List Url :=
  ((((new "http://[::1]:8002" none).fileContents (.recorded fun _ _ => none) "owner/name" path
    "main").run .zero).run []).2.map (·.1.url)

def sampleUrl : Url :=
  { scheme := "http", user := "", password := none, host := some (.ipv6 [0, 0, 0, 0, 0, 0, 0, 1])
    port := some 8002, path := .segments [""], query := none, fragment := none }

theorem folderFile_asked :
    ∃ asked directory, sampleRequests ".tekton/pull_request.yaml" = [asked] ∧
      Url.parse? "http://[::1]:8002/" = some directory ∧
      AsksFor asked directory "owner/name" ".tekton/pull_request.yaml" "main" := by
  have based : Url.parse? "http://[::1]:8002" = some sampleUrl := by decide +kernel
  have one : (sampleRequests ".tekton/pull_request.yaml").length = 1 := by decide +kernel
  obtain ⟨sent, log, asks⟩ := fileContents_asks (fun _ _ => none) .zero [] based (.inl rfl) rfl rfl
    none "owner/name" ".tekton/pull_request.yaml" "main"
  rw [sampleRequests, log, List.nil_append, List.length_map] at one
  obtain ⟨exchange, rfl⟩ := List.length_eq_one_iff.mp one
  obtain ⟨directory, parsed, -, -, asked⟩ := asks exchange (List.mem_singleton_self _)
  refine ⟨exchange.1.url, directory, by rw [sampleRequests, log]; rfl, parsed, asked.mpr ?_⟩
  have last : ".tekton/pull_request.yaml".toList.getLast? = some 'l' := by decide
  exact ⟨by decide, by decide, fun c ends => by cases last.symm.trans ends; rfl⟩

/-- A question mark in the name of a file ends the path, and what is behind it becomes a pair of the
query. -/
theorem questionedFile_not_asked :
    ∃ asked, sampleRequests "what?.yaml" = [asked] ∧
      asked.pathText = "/repos/owner/name/contents/what" ∧
      asked.query.map Url.Escape.readForm = some [(".yaml", ""), ("ref", "main")] ∧
      ∀ directory, ¬ AsksFor asked directory "owner/name" "what?.yaml" "main" := by
  have asks : (sampleRequests "what?.yaml").map
        (fun asked => (asked.pathText, asked.query.map Url.Escape.readForm)) =
      [("/repos/owner/name/contents/what", some [(".yaml", ""), ("ref", "main")])] := by
    decide +kernel
  obtain ⟨asked, only, same⟩ := List.map_eq_singleton_iff.mp asks
  obtain ⟨path, query⟩ := Prod.mk.inj same
  refine ⟨asked, only, path, query, fun directory whole => ?_⟩
  exact absurd (query.symm.trans whole.query) (by decide)

end SourceHostClient

end StagedRuns
