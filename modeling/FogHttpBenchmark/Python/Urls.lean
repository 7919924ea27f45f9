import FogHttpBenchmark.Python.Latin1

/-!
# URLs

`urllib.parse.urlsplit` and the parts of its result that the proxy reads. The library's checks
of a network location, which need the Unicode database and the parser of IP addresses, are
parameters: they only decide whether `urlsplit` raises.
-/

set_option autoImplicit false

namespace FogHttpBenchmark.Python

open Library Library.Checked

/-- The checks of a network location that are left out of the model. -/
class PyUrls where
  /-- `_check_bracketed_netloc(netloc)` raises `ValueError`. -/
  refusesBrackets : String → Bool
  /-- `_checknetloc(netloc)` raises `ValueError`, for a location that is not ASCII. -/
  refusesNetloc : String → Bool

/-- Nothing is refused, as for locations in ASCII without brackets. -/
@[reducible] def plainUrls : PyUrls := ⟨fun _ => false, fun _ => false⟩

/-! ## Splitting -/

section Splitting

structure SplitResult where
  scheme : String
  netloc : String
  path : String
  query : String
  fragment : String
  deriving DecidableEq

/-- `_WHATWG_C0_CONTROL_OR_SPACE`. -/
def isC0ControlOrSpace (c : Char) : Bool := c.toNat ≤ 32

/-- `_UNSAFE_URL_BYTES_TO_REMOVE`. -/
def isUnsafeInUrl (c : Char) : Bool := c = '\t' || c = '\r' || c = '\n'

def isAsciiAlpha (c : Char) : Bool :=
  (65 ≤ c.toNat && c.toNat ≤ 90) || (97 ≤ c.toNat && c.toNat ≤ 122)

/-- A character of `scheme_chars`. -/
def isSchemeChar (c : Char) : Bool :=
  isAsciiAlpha c || (48 ≤ c.toNat && c.toNat ≤ 57) || c = '+' || c = '-' || c = '.'

/-- The scheme in lower case, and the rest. -/
def splitScheme (url : List Char) : List Char × List Char :=
  let prefixChars := url.takeWhile (· ≠ ':')
  if ':' ∈ url && prefixChars.head?.any isAsciiAlpha && prefixChars.all isSchemeChar then
    (prefixChars.map lowerChar, (url.dropWhile (· ≠ ':')).drop 1)
  else ([], url)

/-- `_splitnetloc(url, 2)`, where the URL begins with two slashes. -/
def splitNetloc (url : List Char) : List Char × List Char :=
  match url with
  | '/' :: '/' :: rest =>
      (rest.takeWhile fun c => c ≠ '/' && c ≠ '?' && c ≠ '#',
        rest.dropWhile fun c => c ≠ '/' && c ≠ '?' && c ≠ '#')
  | _ => ([], url)

/-- The URL without what the library removes before it splits. -/
def cleanUrl (url : String) : List Char :=
  (url.toList.dropWhile isC0ControlOrSpace).filter fun c => !isUnsafeInUrl c

variable [PyUrls]

/-- The checks of `urlsplit`. -/
def checkNetloc (netloc : String) : Py Unit := do
  let opens := '[' ∈ netloc.toList
  let closes := ']' ∈ netloc.toList
  raiseIf ((opens && !closes) || (closes && !opens)) (valueError "Invalid IPv6 URL")
  raiseIf (opens && closes && PyUrls.refusesBrackets netloc) (valueError "Invalid IPv6 URL")
  raiseIf (netloc.toList.any (fun c => 128 ≤ c.toNat) && PyUrls.refusesNetloc netloc)
    (valueError ("netloc " ++ netloc ++ " contains invalid characters under NFKC normalization"))

/-- `urlsplit(url)`. -/
def urlsplit (url : String) : Py SplitResult := do
  let (scheme, afterScheme) := splitScheme (cleanUrl url)
  let (netloc, afterNetloc) := splitNetloc afterScheme
  -- the fragment is cut off first, so a question mark in it starts no query
  let (beforeFragment, fragment) := partitionText '#' (String.ofList afterNetloc)
  let (path, query) := partitionText '?' beforeFragment
  checkNetloc (String.ofList netloc)
  pure ⟨String.ofList scheme, String.ofList netloc, path, query, fragment⟩

/-- A character of the URL that is left after the cleaning. -/
def Kept (url : String) (c : Char) : Prop := c ∈ url.toList ∧ isUnsafeInUrl c = false

omit [PyUrls] in
theorem kept_of_mem_cleanUrl {url : String} {c : Char} (h : c ∈ cleanUrl url) : Kept url c := by
  obtain ⟨hmem, hsafe⟩ := List.mem_filter.1 h
  exact ⟨(List.dropWhile_sublist _).subset hmem, by simpa using hsafe⟩

omit [PyUrls] in
theorem mem_of_mem_splitScheme {url : List Char} {c : Char} (h : c ∈ (splitScheme url).2) :
    c ∈ url := by
  rw [splitScheme] at h
  split at h
  case isTrue => exact (List.dropWhile_sublist _).subset ((List.drop_sublist _ _).subset h)
  case isFalse => exact h

omit [PyUrls] in
theorem mem_of_mem_splitNetloc {url : List Char} {c : Char}
    (h : c ∈ (splitNetloc url).1 ∨ c ∈ (splitNetloc url).2) : c ∈ url := by
  rw [splitNetloc.eq_def] at h
  split at h
  case h_1 rest =>
    have hrest : c ∈ rest := by
      rcases h with h | h
      · exact (List.takeWhile_sublist _).subset h
      · exact (List.dropWhile_sublist _).subset h
    exact List.mem_cons_of_mem _ (List.mem_cons_of_mem _ hrest)
  case h_2 =>
    rcases h with h | h
    · exact absurd h List.not_mem_nil
    · exact h

/-- The location, the path and the query have characters of the cleaned URL, and the path ends
at the first question mark. -/
structure SplitsOf (url : String) (target : SplitResult) : Prop where
  netloc : ∀ c ∈ target.netloc.toList, Kept url c
  path : ∀ c ∈ target.path.toList, Kept url c ∧ c ≠ '?'
  query : ∀ c ∈ target.query.toList, Kept url c

theorem splitsOf_urlsplit {url : String} {target : SplitResult}
    (h : urlsplit url = .ok target) : SplitsOf url target := by
  rw [urlsplit] at h
  obtain ⟨-, h⟩ := seq_eq_ok.1 h
  rw [pure_eq_ok] at h
  subst h
  have hrest : ∀ c ∈ (partitionText '#' (String.ofList
      (splitNetloc (splitScheme (cleanUrl url)).2).2)).1.toList, Kept url c := by
    intro c hc
    have hmem := mem_of_mem_partitionText (.inl hc)
    rw [String.toList_ofList] at hmem
    exact kept_of_mem_cleanUrl (mem_of_mem_splitScheme (mem_of_mem_splitNetloc (.inr hmem)))
  constructor
  · intro c hc
    rw [String.toList_ofList] at hc
    exact kept_of_mem_cleanUrl (mem_of_mem_splitScheme (mem_of_mem_splitNetloc (.inl hc)))
  · intro c hc
    exact ⟨hrest c (mem_of_mem_partitionText (.inl hc)), ne_of_mem_partitionText hc⟩
  · intro c hc
    exact hrest c (mem_of_mem_partitionText (.inr hc))

end Splitting

/-! ## The authority -/

section Authority

/-- `_hostinfo`, the part of the location after its last `@`: the host and the text of the
port, empty where there is none. -/
def SplitResult.hostinfo (target : SplitResult) : String × String :=
  let hostinfo := String.ofList (target.netloc.toList.rtakeWhile (· ≠ '@'))
  if '[' ∈ hostinfo.toList then
    let (hostname, rest) := partitionText ']' (partitionText '[' hostinfo).2
    (hostname, (partitionText ':' rest).2)
  else partitionText ':' hostinfo

/-- `target.hostname`; a zone is kept as it is. -/
def SplitResult.hostname (target : SplitResult) : Option String :=
  let host := target.hostinfo.1
  if host = "" then none
  else if '%' ∈ host.toList then
    some (lowerText (partitionText '%' host).1 ++ "%" ++ (partitionText '%' host).2)
  else some (lowerText host)

variable [PyRuntime]

/-- `target.port`. -/
def SplitResult.port (target : SplitResult) : Py (Option ℕ) :=
  let port := target.hostinfo.2
  if port = "" then pure none
  else if port.toList.all fun c => 48 ≤ c.toNat && c.toNat ≤ 57 then
    let value := port.toList.foldl (fun value c => 10 * value + (c.toNat - 48)) 0
    if value ≤ 65535 then pure (some value)
    else throw (valueError "Port out of range 0-65535")
  else throw (valueError ("Port could not be cast to integer value as " ++ reprString port))

end Authority

end FogHttpBenchmark.Python
