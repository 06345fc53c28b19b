import Weron.Config
import Mathlib.Data.List.Infix

/-!
# The ICE servers

Before `Adapter.Open` starts the session goroutine, it turns the configured ICE entries into
the servers every peer connection is created with (108-138). A blank entry is skipped, an
entry containing `stun:` is a STUN server, and any other is read as `user:credential@url`
by two calls of `strings.Split` and indexing into their results. Go's indexing panics out of
range; `IceFailure.indexOutOfRange` is that panic, which ends the process in `Open`'s caller.

`splitOn_eq` says what a split at one character is; `iceServer_eq` then says what the loop
makes of one entry, and `iceServers_ok` and `iceServers_error` what it makes of a list.
-/

namespace Weron

/-- `strings.Contains(s, substr)`, over the characters of the two strings. -/
def contains (s substr : String) : Bool := decide (substr.toList <:+: s.toList)

/-- `strings.Split(s, sep)` for a one-character separator: the pieces between separators. -/
def split (s : String) (sep : Char) : List String := (s.toList.splitOn sep).map String.mk

/-- The errors `Open` returns for an ICE entry. -/
inductive IceError
  | invalidTURNServerAddr
  | missingTURNCredentials
  deriving DecidableEq

/-- How reading an ICE entry fails: with an error `Open` returns, or with the panic of an
index out of range. -/
inductive IceFailure
  | error (err : IceError)
  | indexOutOfRange
  deriving DecidableEq

/-- `webrtc.ICECredentialType`; its zero value is `ICECredentialTypePassword`. -/
inductive ICECredentialType
  | password
  | oauth
  deriving DecidableEq

/-- `webrtc.ICEServer`. `Credential` is an `interface{}`, nil for a STUN server. -/
structure ICEServer where
  urls : List String
  username : String
  credential : Option String
  credentialType : ICECredentialType
  deriving DecidableEq

/-- Go's `xs[i]`: the element, or the panic of an index out of range. -/
def index (xs : List String) (i : Nat) : Except IceFailure String :=
  match xs[i]? with
  | some x => .ok x
  | none => .error .indexOutOfRange

/-- The body of the loop for an entry that is not blank (115-137). The second length check
tests `addrParts` again. -/
def iceServer (ice : String) : Except IceFailure ICEServer :=
  if contains ice "stun:" then .ok ⟨[ice], "", none, .password⟩ else
  let addrParts := split ice '@'
  if addrParts.length < 2 then .error (.error .invalidTURNServerAddr) else
  (index addrParts 0).bind fun auth =>
  let authParts := split auth ':'
  if addrParts.length < 2 then .error (.error .missingTURNCredentials) else
  (index addrParts 1).bind fun url =>
  (index authParts 0).bind fun username =>
  (index authParts 1).bind fun credential =>
  .ok ⟨[url], username, some credential, .password⟩

/-- The loop over `a.ice` (110-138): blank entries are skipped and the others read in order,
until the first that fails. -/
def iceServers : List String → Except IceFailure (List ICEServer)
  | [] => .ok []
  | ice :: rest =>
    if trimSpace ice = "" then iceServers rest
    else (iceServer ice).bind fun server => (iceServers rest).map (server :: ·)

/-- Where `Open` gets before its `go` statement (98-140). -/
inductive Opened
  | started (servers : List ICEServer)
  | signalerInvalid
  | failed (err : IceError)
  | panicked

/-- `Adapter.Open` up to the `go` statement: a signaler URL that does not parse, an ICE
entry that fails, or a panic ends it before the session goroutine starts. -/
def openAdapter (signalerParses : Bool) (ice : List String) : Opened :=
  if !signalerParses then .signalerInvalid else
  match iceServers ice with
  | .ok servers => .started servers
  | .error (.error err) => .failed err
  | .error .indexOutOfRange => .panicked

section Split

variable {α : Type} [DecidableEq α]

/-- What comes after the first `a` in `l`. -/
def after (a : α) (l : List α) : List α := (l.dropWhile (· != a)).tail

/-- **Splitting at one separator**: the piece before its first occurrence, then the pieces of
what follows it. -/
theorem splitOn_eq (a : α) (l : List α) :
    l.splitOn a = l.takeWhile (· != a) :: (if a ∈ l then (after a l).splitOn a else []) := by
  induction l with
  | nil => simp
  | cons x xs ih =>
    simp only [List.splitOn, List.splitOnP_cons] at ih ⊢
    by_cases same : x = a
    · subst same; simp [after]
    · simp [same, ih, Ne.symm same, after]

/-- No element of a list without `a` is `a`. -/
theorem bne_of_not_mem {a : α} {xs : List α} (absent : a ∉ xs) : ∀ x ∈ xs, (x != a) = true :=
  fun _ mem => bne_iff_ne.mpr fun same => absent (same ▸ mem)

theorem takeWhile_append_cons {a : α} {xs : List α} (absent : a ∉ xs) (ys : List α) :
    (xs ++ a :: ys).takeWhile (· != a) = xs := by
  rw [List.takeWhile_append_of_pos (bne_of_not_mem absent), List.takeWhile_cons_of_neg (by simp),
    List.append_nil]

theorem after_append_cons {a : α} {xs : List α} (absent : a ∉ xs) (ys : List α) :
    after a (xs ++ a :: ys) = ys := by
  rw [after, List.dropWhile_append_of_pos (bne_of_not_mem absent),
    List.dropWhile_cons_of_neg (by simp), List.tail_cons]

theorem takeWhile_of_not_mem {a : α} {xs : List α} (absent : a ∉ xs) :
    xs.takeWhile (· != a) = xs :=
  List.takeWhile_eq_self_iff.mpr (bne_of_not_mem absent)

end Split

/-- A split yields a second piece exactly when the separator occurs. -/
theorem split_length_lt_two (s : String) (sep : Char) :
    (split s sep).length < 2 ↔ sep ∉ s.toList := by
  rw [split, List.length_map, splitOn_eq]
  split
  · next present =>
    have pieces : 0 < ((after sep s.toList).splitOn sep).length :=
      List.length_pos.mpr (List.splitOnP_ne_nil _ _)
    simp only [List.length_cons, present, not_true_eq_false, iff_false]
    omega
  · next absent => simp only [List.length_singleton, absent, not_false_eq_true, iff_true]; omega

theorem split_getElem?_zero (s : String) (sep : Char) :
    (split s sep)[0]? = some ⟨s.toList.takeWhile (· != sep)⟩ := by
  rw [split, splitOn_eq, List.map_cons, List.getElem?_cons_zero]

theorem split_getElem?_one (s : String) (sep : Char) :
    (split s sep)[1]? =
      if sep ∈ s.toList then some ⟨(after sep s.toList).takeWhile (· != sep)⟩ else none := by
  rw [split, splitOn_eq]
  split
  · rw [splitOn_eq, List.map_cons, List.map_cons, List.getElem?_cons_succ, List.getElem?_cons_zero]
  · rfl

/-- **What the loop makes of one entry.** An entry containing `stun:` is a STUN server. Any
other needs an `@`, and a `:` before it, or indexing `authParts[1]` panics; its URL is what
follows the first `@` up to the next, and its user and credential are the first two
`:`-separated pieces of what precedes it. -/
theorem iceServer_eq (ice : String) : iceServer ice =
    if contains ice "stun:" then .ok ⟨[ice], "", none, .password⟩
    else if '@' ∉ ice.toList then .error (.error .invalidTURNServerAddr)
    else if ':' ∉ ice.toList.takeWhile (· != '@') then .error .indexOutOfRange
    else .ok ⟨[⟨(after '@' ice.toList).takeWhile (· != '@')⟩],
      ⟨(ice.toList.takeWhile (· != '@')).takeWhile (· != ':')⟩,
      some ⟨(after ':' (ice.toList.takeWhile (· != '@'))).takeWhile (· != ':')⟩, .password⟩ := by
  unfold iceServer
  by_cases stun : contains ice "stun:" = true
  · simp only [stun, if_true]
  by_cases present : '@' ∈ ice.toList
  · by_cases colon : ':' ∈ ice.toList.takeWhile (· != '@')
    all_goals simp only [String.toList] at present colon
    all_goals simp [stun, present, colon, split_length_lt_two, index, split_getElem?_zero,
      split_getElem?_one, Except.bind]
  · simp only [String.toList] at present
    simp [stun, present, split_length_lt_two]

/-- The loop never reaches its `ErrMissingTURNCredentials`. -/
theorem iceServer_ne_missingCredentials (ice : String) :
    iceServer ice ≠ .error (.error .missingTURNCredentials) := by
  rw [iceServer_eq]; split_ifs <;> simp

/-- **The loop returns servers** exactly when every entry that is not blank reads as one, and
then it returns them in order, one per such entry. -/
theorem iceServers_ok (ice : List String) (servers : List ICEServer) :
    iceServers ice = .ok servers ↔
      List.Forall₂ (fun entry server => iceServer entry = .ok server)
        (ice.filter fun entry => trimSpace entry != "") servers := by
  induction ice generalizing servers with
  | nil => cases servers <;> simp [iceServers]
  | cons entry rest ih =>
    unfold iceServers
    by_cases blank : trimSpace entry = ""
    · simp [blank, ih]
    · rw [if_neg blank, List.filter_cons_of_pos (by simpa using blank)]
      cases read : iceServer entry with
      | error failure => cases servers <;> simp [Except.bind, read]
      | ok server =>
        simp only [Except.bind, List.forall₂_cons_left_iff, read, Except.ok.injEq, ← ih]
        cases iceServers rest <;> simp [Except.map, eq_comm]

/-- **The loop fails** with the failure of the first entry that is not blank and does not read
as a server. -/
theorem iceServers_error (ice : List String) (failure : IceFailure) :
    iceServers ice = .error failure ↔ ∃ pre entry post, ice = pre ++ entry :: post ∧
      (∀ x ∈ pre, trimSpace x = "" ∨ ∃ server, iceServer x = .ok server) ∧
      trimSpace entry ≠ "" ∧ iceServer entry = .error failure := by
  induction ice with
  | nil => simp [iceServers]
  | cons first rest ih =>
    have mapped : ∀ server, ((iceServers rest).map (server :: ·) = .error failure) ↔
        iceServers rest = .error failure := fun server => by
      cases iceServers rest <;> simp [Except.map]
    unfold iceServers
    constructor
    · intro failed
      by_cases blank : trimSpace first = ""
      · rw [if_pos blank] at failed
        obtain ⟨pre, entry, post, rfl, fine, kept, fails⟩ := ih.mp failed
        refine ⟨first :: pre, entry, post, rfl, fun x mem => ?_, kept, fails⟩
        rcases List.mem_cons.mp mem with rfl | earlier
        exacts [.inl blank, fine x earlier]
      · rw [if_neg blank] at failed
        cases read : iceServer first with
        | error first =>
          rw [read] at failed; cases failed
          exact ⟨[], _, rest, rfl, by simp, blank, read⟩
        | ok server =>
          rw [read, Except.bind, mapped] at failed
          obtain ⟨pre, entry, post, rfl, fine, kept, fails⟩ := ih.mp failed
          refine ⟨first :: pre, entry, post, rfl, fun x mem => ?_, kept, fails⟩
          rcases List.mem_cons.mp mem with rfl | earlier
          exacts [.inr ⟨server, read⟩, fine x earlier]
    · rintro ⟨pre, entry, post, split, fine, kept, fails⟩
      cases pre with
      | nil =>
        obtain ⟨rfl, rfl⟩ := List.cons.inj split
        rw [if_neg kept, fails]; rfl
      | cons x pre =>
        obtain ⟨rfl, rfl⟩ := List.cons.inj split
        have later := ih.mpr ⟨pre, entry, post, rfl, fun y mem => fine y (.tail _ mem), kept, fails⟩
        rcases fine _ (.head _) with blank | ⟨server, read⟩
        · rw [if_pos blank]; exact later
        · split
          · exact later
          · rw [read, Except.bind, mapped]; exact later

/-- The second length check tests `addrParts` again: `Open` never returns
`ErrMissingTURNCredentials`, and an entry with an `@` but no `:` before it makes indexing
`authParts[1]` panic. -/
theorem missingCredentials_panics :
    (∀ ice, iceServers ice ≠ .error (.error .missingTURNCredentials)) ∧
      openAdapter true ["user@turn:host"] = .panicked := by
  refine ⟨fun ice failed => ?_, rfl⟩
  obtain ⟨_, entry, _, _, _, _, fails⟩ := (iceServers_error ice _).mp failed
  exact iceServer_ne_missingCredentials entry fails

/-- **An entry `user:credential@url` reads back** as the TURN server it spells, with the
credential cut at its first `:`. -/
theorem iceServer_turn {user credential url : String}
    (plainUser : ':' ∉ user.toList ∧ '@' ∉ user.toList) (plainCredential : '@' ∉ credential.toList)
    (plainUrl : '@' ∉ url.toList) (turn : contains (user ++ ":" ++ credential ++ "@" ++ url) "stun:" = false) :
    iceServer (user ++ ":" ++ credential ++ "@" ++ url) =
      .ok ⟨[url], user, some ⟨credential.toList.takeWhile (· != ':')⟩, .password⟩ := by
  have spelled : (user ++ ":" ++ credential ++ "@" ++ url).toList =
      (user.toList ++ ':' :: credential.toList) ++ '@' :: url.toList := by
    simp [String.toList]
  have address : '@' ∉ user.toList ++ ':' :: credential.toList := by
    simp only [List.mem_append, List.mem_cons, not_or]
    exact ⟨plainUser.2, by decide, plainCredential⟩
  rw [iceServer_eq, if_neg (by simp [turn]), spelled, takeWhile_append_cons address,
    after_append_cons address, takeWhile_of_not_mem plainUrl,
    takeWhile_append_cons plainUser.1, after_append_cons plainUser.1, if_neg (by simp),
    if_neg (by simp)]
  rfl

/-- **ICE entries read as the servers they spell.** When the loop returns servers, they are
one per entry that is not blank, in order, each the entry's own: an entry containing `stun:`
is the STUN server of that URL, and `user:credential@url` the TURN server with that user and
URL and the credential up to its first `:`. -/
theorem iceServers_spelled (ice : List String) (servers : List ICEServer)
    (parsed : iceServers ice = .ok servers) (user credential url : String)
    (plainUser : ':' ∉ user.toList ∧ '@' ∉ user.toList) (plainCredential : '@' ∉ credential.toList)
    (plainUrl : '@' ∉ url.toList)
    (turn : contains (user ++ ":" ++ credential ++ "@" ++ url) "stun:" = false) :
    List.Forall₂ (fun entry server => iceServer entry = .ok server)
        (ice.filter fun entry => trimSpace entry != "") servers ∧
      (∀ entry, contains entry "stun:" = true → iceServer entry = .ok ⟨[entry], "", none, .password⟩) ∧
      iceServer (user ++ ":" ++ credential ++ "@" ++ url) =
        .ok ⟨[url], user, some ⟨credential.toList.takeWhile (· != ':')⟩, .password⟩ :=
  ⟨(iceServers_ok ice servers).mp parsed, fun entry stun => by rw [iceServer_eq, if_pos stun],
    iceServer_turn plainUser plainCredential plainUrl turn⟩

theorem iceServers_spelled_stunAndTurn :
    List.Forall₂ (fun entry server => iceServer entry = .ok server)
        (["stun:stun.l.google.com:19302", " ", "alice:pa:ss@turn:example.com"].filter
          fun entry => trimSpace entry != "")
        [⟨["stun:stun.l.google.com:19302"], "", none, .password⟩,
          ⟨["turn:example.com"], "alice", some "pa", .password⟩] ∧
      (∀ entry, contains entry "stun:" = true → iceServer entry = .ok ⟨[entry], "", none, .password⟩) ∧
      iceServer ("alice" ++ ":" ++ "pa:ss" ++ "@" ++ "turn:example.com") =
        .ok ⟨["turn:example.com"], "alice", some ⟨"pa:ss".toList.takeWhile (· != ':')⟩, .password⟩ :=
  iceServers_spelled ["stun:stun.l.google.com:19302", " ", "alice:pa:ss@turn:example.com"]
    [⟨["stun:stun.l.google.com:19302"], "", none, .password⟩,
      ⟨["turn:example.com"], "alice", some "pa", .password⟩] rfl "alice" "pa:ss" "turn:example.com"
    ⟨by decide, by decide⟩ (by decide) (by decide) rfl

/-- A credential with a `:` in it comes back cut at that `:`. -/
theorem colonCredential_truncated :
    (':' ∉ "alice".toList ∧ '@' ∉ "alice".toList) ∧ '@' ∉ "pa:ss".toList ∧
      '@' ∉ "turn:example.com".toList ∧ contains "alice:pa:ss@turn:example.com" "stun:" = false ∧
      iceServer ("alice" ++ ":" ++ "pa:ss" ++ "@" ++ "turn:example.com") ≠
        .ok ⟨["turn:example.com"], "alice", some "pa:ss", .password⟩ := by
  refine ⟨⟨by decide, by decide⟩, by decide, by decide, rfl, fun spelled => ?_⟩
  have cut : iceServer ("alice" ++ ":" ++ "pa:ss" ++ "@" ++ "turn:example.com") =
      .ok ⟨["turn:example.com"], "alice", some "pa", .password⟩ := rfl
  rw [cut, Except.ok.injEq, ICEServer.mk.injEq] at spelled
  exact absurd (Option.some.inj spelled.2.2.1) (by decide)

end Weron
