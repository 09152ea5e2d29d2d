import ClusterApiForSlinky.GitSync
import ClusterApiForSlinky.PercentEncoding
import ClusterApiForSlinky.Shell
import ClusterApiForSlinky.Urls

/-!
The URL, the known_hosts file and the ssh command of one push of
gitrepo/git_sync.py, and how urllib, the shell and ssh read them. Of ssh only
options and host fields of one plain word are read; quoting, patterns, lists,
hashed names and markers have no meaning here.
-/

namespace ClusterApiForSlinky.GitSyncUrl
open Urls (Tables SplitResult)

structure IngressEntry where
  ip : Option String
  hostname : Option String

/-- `none` is an IndexError. -/
def loadBalancerHost : List IngressEntry → Option (Option String)
  | [] => none
  | entry :: _ => some ((Text.nonempty entry.ip).or entry.hostname)

structure Props where
  repoUrl : String
  repoBranch : String
  sshHostPublicKey : String
  sshHost : String
  sshPort : Int

inductive Fault where
  | malformed
  | url (fault : GitSync.UrlFault)
  deriving DecidableEq

def splitSshUrl (tables : Tables) (repoUrl : String) : Except Fault SplitResult :=
  match tables.urlsplit repoUrl.toList with
  | none => .error .malformed
  | some parsed =>
      match GitSync.splitSshUrl
        { scheme := String.ofList parsed.scheme
          hostname := (parsed.hostname tables).map String.ofList
          password := parsed.password.map String.ofList
          path := String.ofList parsed.path } with
      | .ok _ => .ok parsed
      | .error fault => .error (.url fault)

def userinfo (parsed : SplitResult) : String :=
  match parsed.username with
  | some user => if user ≠ [] then String.ofList (PercentEncoding.quote user) ++ "@" else ""
  | none => ""

def buildGitUrl (tables : Tables) (props : Props) : Except Fault String :=
  match splitSshUrl tables props.repoUrl with
  | .error fault => .error fault
  | .ok parsed => .ok ("ssh://" ++ userinfo parsed ++ props.sshHost ++ ":" ++
      toString props.sshPort ++ String.ofList parsed.path)

/-- The host name of an accepted URL. -/
def hostAlias (tables : Tables) (parsed : SplitResult) : String :=
  String.ofList ((parsed.hostname tables).getD [])

def knownHosts (tables : Tables) (props : Props) : Except Fault String :=
  match splitSshUrl tables props.repoUrl with
  | .error fault => .error fault
  | .ok parsed =>
      .ok (hostAlias tables parsed ++ " " ++ Text.strip props.sshHostPublicKey ++ "\n")

def sshCommand (keyPath knownHostsPath name : String) : String :=
  " ".intercalate
    ["ssh", "-i", Shell.quote keyPath, "-o", "IdentitiesOnly=yes", "-o", "BatchMode=yes",
      "-o", "StrictHostKeyChecking=yes", "-o",
      "UserKnownHostsFile=" ++ Shell.quote knownHostsPath, "-o",
      "HostKeyAlias=" ++ Shell.quote name]

structure Push where
  knownHosts : String
  argv : List String
  gitSshCommand : String

/-- `_push_once` up to the call of git; the paths are those of the two temporary files. -/
def pushOnce (tables : Tables) (props : Props) (keyPath knownHostsPath : String) :
    Except Fault Push :=
  match knownHosts tables props, splitSshUrl tables props.repoUrl, buildGitUrl tables props with
  | .ok hosts, .ok parsed, .ok url =>
      .ok { knownHosts := hosts
            argv := ["git", "push", url, "HEAD:refs/heads/" ++ props.repoBranch]
            gitSshCommand := sshCommand keyPath knownHostsPath (hostAlias tables parsed) }
  | .error fault, _, _ => .error fault
  | _, .error fault, _ => .error fault
  | _, _, .error fault => .error fault

/-! How ssh reads the command and the file. -/

def blanks : List Char := [' ', '\t', '\r', '\n']
def quoting : List Char := ['"', '\'', '\\', '#']
def patterns : List Char := [',', '*', '?']
def markers : List Char := ['!', '|', '#', '@']

/-- An argument of an option that stands for itself: ssh ends an argument at a
blank and takes quotes and backslashes out of it. -/
def argument (text : List Char) : Option (List Char) :=
  if text ≠ [] ∧ text.all (fun char => char ∉ blanks ∧ char ∉ quoting) then some text else none

/-- The first value that is given to a keyword, as ssh takes options of its command line. -/
def optionValue (keyword : String) : List String → Option (List Char)
  | "-o" :: option :: rest =>
      if Text.startsWith option keyword then some (option.toList.drop keyword.length)
      else optionValue keyword rest
  | "-i" :: _ :: rest => optionValue keyword rest
  | _ :: rest => optionValue keyword rest
  | [] => none

def wordsOf (command : String) : Option (List String) :=
  (Shell.tokenize (fun _ => none) .between [] command.toList).bind (fun tokens =>
    tokens.mapM (fun token =>
      match token with
      | .word text => some text
      | _ => none))

/-- The name under which ssh looks the host key up. -/
def lookedUp (command : String) : Option (List Char) :=
  ((wordsOf command).bind (optionValue "HostKeyAlias=")).bind argument

/-- The host name of the first entry, where its host field is one name. -/
def entryName (file : String) : Option (List Char) :=
  let field := file.toList.takeWhile (fun char => char ∉ blanks)
  if field ≠ [] ∧ field.all (fun char => char ∉ patterns) ∧
      field.head?.all (fun char => char ∉ markers) then
    some field
  else none

theorem wordsOf_sshCommand (keyPath knownHostsPath name : String) :
    wordsOf (sshCommand keyPath knownHostsPath name) =
      some ["ssh", "-i", keyPath, "-o", "IdentitiesOnly=yes", "-o", "BatchMode=yes",
        "-o", "StrictHostKeyChecking=yes", "-o", "UserKnownHostsFile=" ++ knownHostsPath, "-o",
        "HostKeyAlias=" ++ name] := by
  have plain : ∀ text, Shell.quote text = text → Shell.Reads (fun _ => none) text text :=
    Shell.reads_safe _
  have option := plain "-o" (by decide)
  have reads := Shell.tokenize_intercalate (fun _ => none)
    ["ssh", "-i", Shell.quote keyPath, "-o", "IdentitiesOnly=yes", "-o", "BatchMode=yes",
      "-o", "StrictHostKeyChecking=yes", "-o",
      "UserKnownHostsFile=" ++ Shell.quote knownHostsPath, "-o",
      "HostKeyAlias=" ++ Shell.quote name] _
    (.cons (plain "ssh" (by decide)) (.cons (plain "-i" (by decide))
      (.cons (Shell.reads_quote _ keyPath) (.cons option
      (.cons (plain "IdentitiesOnly=yes" (by decide)) (.cons option
      (.cons (plain "BatchMode=yes" (by decide)) (.cons option
      (.cons (plain "StrictHostKeyChecking=yes" (by decide)) (.cons option
      (.cons (Shell.reads_assigned _ "UserKnownHostsFile=" knownHostsPath (by decide))
      (.cons option
      (.cons (Shell.reads_assigned _ "HostKeyAlias=" name (by decide)) .nil)))))))))))))
  rw [wordsOf, sshCommand, reads, Option.bind_some, List.mapM_map]
  rfl

/-- An option of another keyword is passed by. -/
theorem optionValue_other (keyword option : String) (rest : List String)
    (other : Text.startsWith option keyword = false) :
    optionValue keyword ("-o" :: option :: rest) = optionValue keyword rest := by
  rw [optionValue, other]
  rfl

theorem lookedUp_sshCommand (keyPath knownHostsPath name : String) :
    lookedUp (sshCommand keyPath knownHostsPath name) = argument name.toList := by
  have skipped : ∀ rest, optionValue "HostKeyAlias=" ("ssh" :: "-i" :: keyPath :: rest) =
      optionValue "HostKeyAlias=" rest := fun _ => rfl
  have file : Text.startsWith ("UserKnownHostsFile=" ++ knownHostsPath) "HostKeyAlias=" =
      false := by
    rw [Text.startsWith, String.toList_append]
    rfl
  have named : ("HostKeyAlias=" ++ name).toList.drop "HostKeyAlias=".length = name.toList := by
    rw [String.toList_append]
    rfl
  rw [lookedUp, wordsOf_sshCommand, Option.bind_some, skipped,
    optionValue_other _ _ _ (by decide), optionValue_other _ _ _ (by decide),
    optionValue_other _ _ _ (by decide), optionValue_other _ _ _ file, optionValue,
    if_pos (Text.startsWith_append _ _), named, Option.bind_some]

/-- The names that a known_hosts file and an option of ssh hold as they are. -/
structure PlainName (name : List Char) : Prop where
  filled : name ≠ []
  plain : ∀ char ∈ name, char ∉ blanks ∧ char ∉ quoting ∧ char ∉ patterns
  unmarked : ∀ char ∈ name.head?, char ∉ markers

theorem argument_eq_some (text word : List Char) :
    argument text = some word ↔
      text = word ∧ word ≠ [] ∧ ∀ char ∈ word, char ∉ blanks ∧ char ∉ quoting := by
  rw [argument]
  constructor
  · intro read
    split at read
    · next whole =>
        cases read
        exact ⟨rfl, whole.1, by simpa using whole.2⟩
    · cases read
  · rintro ⟨rfl, filled, plain⟩
    exact if_pos ⟨filled, by simpa using plain⟩

theorem entryName_eq_some (name rest host : List Char) (unbroken : ∀ char ∈ name, char ∉ blanks) :
    entryName (String.ofList (name ++ ' ' :: rest)) = some host ↔
      name = host ∧ host ≠ [] ∧ (∀ char ∈ host, char ∉ patterns) ∧
        ∀ char ∈ host.head?, char ∉ markers := by
  have field : (name ++ ' ' :: rest).takeWhile (fun char => char ∉ blanks) = name := by
    rw [List.takeWhile_append_of_pos, List.takeWhile_cons_of_neg (by decide), List.append_nil]
    intro char member
    exact decide_eq_true (unbroken char member)
  have head : name.head?.all (fun char => char ∉ markers) = true ↔
      ∀ char ∈ name.head?, char ∉ markers := by
    cases name <;> simp
  rw [entryName, String.toList_ofList, field]
  constructor
  · intro read
    split at read
    · next whole =>
        cases read
        exact ⟨rfl, whole.1, by simpa using whole.2.1, head.mp whole.2.2⟩
    · cases read
  · rintro ⟨rfl, filled, literal, unmarked⟩
    exact if_pos ⟨filled, by simpa using literal, head.mpr unmarked⟩

/-- Both name the host exactly when its name is plain. -/
theorem names_agree_iff (name rest : List Char) :
    (∃ host, entryName (String.ofList (name ++ ' ' :: rest)) = some host ∧
      argument name = some host) ↔ PlainName name := by
  constructor
  · rintro ⟨host, entry, argued⟩
    obtain ⟨rfl, filled, word⟩ := (argument_eq_some name host).mp argued
    have unbroken : ∀ char ∈ name, char ∉ blanks := fun char member => (word char member).1
    have read := (entryName_eq_some name rest name unbroken).mp entry
    exact ⟨filled, fun char member => ⟨(word char member).1, (word char member).2,
      read.2.2.1 char member⟩, read.2.2.2⟩
  · rintro ⟨filled, plain, unmarked⟩
    have unbroken : ∀ char ∈ name, char ∉ blanks := fun char member => (plain char member).1
    refine ⟨name, ?_, ?_⟩
    · exact (entryName_eq_some name rest name unbroken).mpr
        ⟨rfl, filled, fun char member => (plain char member).2.2, unmarked⟩
    · exact (argument_eq_some name name).mpr
        ⟨rfl, filled, fun char member => ⟨(plain char member).1, (plain char member).2.1⟩⟩

end ClusterApiForSlinky.GitSyncUrl
