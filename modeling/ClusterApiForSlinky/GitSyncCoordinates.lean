import ClusterApiForSlinky.GitSyncUrl

/-!
The pushed URL keeps the coordinates of the repository, and the host key is
looked up under the name it is kept under, exactly when user, host, port and
host name are of the forms that the text of a URL and of a known_hosts file
take as they are.
-/

namespace ClusterApiForSlinky.GitSyncUrl
open Urls (Tables SplitResult asciiTables)

/-- Users and hosts are compared as `urlsplit` returns them, or as they are
meant: escapes of a user decoded, letters of a host in either case. -/
inductive Reading where
  | written
  | meant

def filled (user : Option (List Char)) : Option (List Char) := user.filter (fun name => name ≠ [])

def SameUser : Reading → Option (List Char) → Option (List Char) → Prop
  | .written, given, read => read = given
  | .meant, given, read =>
      (filled read).map PercentEncoding.unquote = (filled given).map PercentEncoding.unquote

def SameHost (tables : Tables) : Reading → List Char → Option (List Char) → Prop
  | .written, given, read => read = some given
  | .meant, given, read => read = some (tables.lowerHost given)

structure PreservesCoordinates (reading : Reading) (tables : Tables) (props : Props)
    (parsed : SplitResult) : Prop where
  url : ∃ text read port, buildGitUrl tables props = .ok text ∧
    tables.urlsplit text.toList = some read ∧ SameUser reading parsed.username read.username ∧
    read.path = parsed.path ∧
    SameHost tables reading props.sshHost.toList (read.hostname tables) ∧
    read.port = some (some port) ∧ (port : Int) = props.sshPort
  hostKey : ∀ keyPath knownHostsPath, ∃ push host,
    pushOnce tables props keyPath knownHostsPath = .ok push ∧
    entryName push.knownHosts = some host ∧ lookedUp push.gitSshCommand = some host

def PlainUser : Reading → List Char → Prop
  | .written, user => user ≠ [] ∧ ∀ char ∈ user, PercentEncoding.isSafe char = true
  | .meant, user => PercentEncoding.escaped user = false

structure PlainCoordinates (reading : Reading) (tables : Tables) (props : Props)
    (parsed : SplitResult) : Prop where
  user : ∀ user, parsed.username = some user → PlainUser reading user
  host : props.sshHost ≠ "" ∧ ∀ char ∈ props.sshHost.toList,
    Urls.isSeparator char = false ∧ (char.toNat < 128 ∨ tables.expands char = false)
  lowered : reading = .written →
    tables.lowerHost props.sshHost.toList = props.sshHost.toList
  port : 0 ≤ props.sshPort ∧ props.sshPort ≤ 65535
  hostKey : ∀ name, parsed.hostname tables = some name → PlainName name

/-! What is known of an accepted URL. -/

structure AcceptedUrl (tables : Tables) (parsed : SplitResult) : Prop where
  user : ∀ user, parsed.username = some user → ∀ char ∈ user, Urls.endsNetloc char = false
  named : ∃ name, parsed.hostname tables = some name
  rooted : parsed.path.head? = some '/'
  path : ∀ char ∈ parsed.path, char ≠ '?' ∧ char ≠ '#' ∧ Urls.isRemoved char = false

theorem splitSshUrl_ok (url result : GitSync.SplitUrl) (ok : GitSync.splitSshUrl url = .ok result) :
    Text.nonempty url.hostname ≠ none ∧ url.path ≠ "" := by
  rw [GitSync.splitSshUrl] at ok
  split at ok
  · cases ok
  · split at ok
    · cases ok
    · next named =>
        split at ok
        · cases ok
        · split at ok
          · cases ok
          · next rooted => exact ⟨named, fun empty => rooted (.inl empty)⟩

theorem accepted_url (tables : Tables) (repoUrl : String) (parsed : SplitResult)
    (accepted : splitSshUrl tables repoUrl = .ok parsed) : AcceptedUrl tables parsed := by
  delta splitSshUrl at accepted
  cases split_text : tables.urlsplit repoUrl.toList with
  | none =>
      rw [split_text] at accepted
      cases accepted
  | some result =>
      rw [split_text] at accepted
      dsimp only at accepted
      split at accepted
      · next checked =>
          cases accepted
          obtain ⟨ends, path, rooted⟩ := Urls.urlsplit_parts tables _ parsed split_text
          obtain ⟨host_given, path_given⟩ := splitSshUrl_ok _ _ checked
          have named : ∃ name, parsed.hostname tables = some name := by
            apply Option.ne_none_iff_exists'.mp
            intro none
            rw [none] at host_given
            exact host_given rfl
          have filled : parsed.path ≠ [] := by
            intro empty
            rw [empty] at path_given
            exact path_given rfl
          obtain ⟨name, host⟩ := named
          refine ⟨?_, ⟨name, host⟩, rooted (Urls.netloc_of_hostname tables parsed name host) filled,
            path⟩
          intro user read char member
          obtain ⟨info, taken, rfl⟩ := Option.map_eq_some_iff.mp read
          have inside := (Urls.before_sublist ':' info).subset member
          exact ends char (Urls.userInfo_subset parsed.netloc info taken inside)
      · cases accepted

/-! The parts of the pushed URL. -/

def writtenUser (parsed : SplitResult) : Option (List Char) :=
  (filled parsed.username).map PercentEncoding.quote

theorem buildGitUrl_ok (tables : Tables) (props : Props) (parsed : SplitResult)
    (accepted : splitSshUrl tables props.repoUrl = .ok parsed) :
    ∃ text, buildGitUrl tables props = .ok text ∧ text.toList =
      Urls.built (writtenUser parsed) props.sshHost.toList (toString props.sshPort).toList
        parsed.path := by
  have sign : "@".toList = ['@'] := rfl
  have colon : ":".toList = [':'] := rfl
  have user : (userinfo parsed).toList =
      ((writtenUser parsed).map (fun name => name ++ ['@'])).getD [] := by
    rw [userinfo, writtenUser]
    cases parsed.username with
    | none => rfl
    | some name =>
        by_cases empty : name = []
        · subst empty
          rfl
        · simp [filled, Option.filter, empty]
  delta buildGitUrl
  rw [accepted]
  refine ⟨_, rfl, ?_⟩
  delta Urls.built Urls.authority
  simp only [String.toList_append, String.toList_ofList, user, colon, List.append_assoc,
    List.cons_append, List.nil_append]

theorem ascii_of_alphanum (char : Char) (letter : char.isAlphanum = true) : char.toNat < 128 := by
  have either : char.isAlphanum = (char.isAlpha || char.isDigit) := rfl
  rw [either, Bool.or_eq_true, Text.isAlpha_iff, Text.isUpper_iff, Text.isLower_iff] at letter
  rcases letter with (upper | lower) | digit
  · omega
  · omega
  · have high : char.toNat ≤ 57 := (of_decide_eq_true (Bool.and_eq_true_iff.mp digit).2)
    omega

theorem quiet_of_safe (char : Char) (safe : PercentEncoding.isSafe char = true)
    (inside : Urls.endsNetloc char = false) :
    Urls.isSeparator char = false ∧ char.toNat < 128 := by
  constructor
  · by_contra separator
    simp only [Urls.isSeparator, Urls.isRemoved, inside, Bool.not_eq_false, Bool.or_eq_true,
      beq_iff_eq, Bool.false_eq_true, false_or] at separator
    rcases separator with (((((rfl | rfl) | rfl) | rfl) | rfl) | rfl) | rfl
    all_goals
      revert safe
      decide
  · simp only [PercentEncoding.isSafe, Bool.or_eq_true, beq_iff_eq] at safe
    rcases safe with ((((letter | rfl) | rfl) | rfl) | rfl) | rfl
    · exact ascii_of_alphanum char letter
    all_goals decide

theorem quiet_quote (user : List Char) (inside : ∀ char ∈ user, Urls.endsNetloc char = false)
    (char : Char) (member : char ∈ PercentEncoding.quote user) :
    Urls.isSeparator char = false ∧ char.toNat < 128 := by
  rcases PercentEncoding.mem_quote user char member with rfl | digit | ⟨safe, listed⟩
  · decide
  · have every : ∀ digit ∈ Text.hexDigits.map Char.toUpper,
        Urls.isSeparator digit = false ∧ digit.toNat < 128 := Text.forall_of_all (by decide)
    exact every char digit
  · exact quiet_of_safe char safe (inside char listed)

theorem quiet_port (port : Int) (char : Char) (member : char ∈ (toString port).toList) :
    Urls.isSeparator char = false ∧ char.toNat < 128 := by
  have digits : ∀ value : Nat, ∀ char ∈ (toString value).toList,
      Urls.isSeparator char = false ∧ char.toNat < 128 := by
    intro value char member
    have digit := Text.digit_of_mem_decimal value char member
    have letter : char.isAlphanum = true := by
      rw [Char.isAlphanum, digit, Bool.or_true]
    have safe : PercentEncoding.isSafe char = true := by
      simp [PercentEncoding.isSafe, letter]
    apply quiet_of_safe char safe
    by_contra ends
    simp only [Urls.endsNetloc, Bool.not_eq_false, Bool.or_eq_true, beq_iff_eq] at ends
    rcases ends with (rfl | rfl) | rfl <;> exact absurd letter (by decide)
  cases port with
  | ofNat value => exact digits value char member
  | negSucc value =>
      have text : (toString (Int.negSucc value)).toList = '-' :: (toString (value + 1)).toList := by
        change ("-" ++ toString (value + 1)).toList = _
        rw [String.toList_append]
        rfl
      rw [text] at member
      rcases List.mem_cons.mp member with rfl | digit
      · decide
      · exact digits (value + 1) char digit

theorem quiet_parts (tables : Tables) (parsed : SplitResult) (url : AcceptedUrl tables parsed)
    (port : Int) : Urls.Quiet (writtenUser parsed) (toString port).toList parsed.path := by
  refine ⟨?_, quiet_port port, url.rooted, url.path⟩
  intro name written char member
  obtain ⟨user, given, rfl⟩ := Option.map_eq_some_iff.mp written
  have username := (Option.filter_eq_some_iff.mp given).1
  exact quiet_quote user (url.user user username) char member

/-! The four coordinates, each by itself. -/

/-- The port that is read is the given one when it is a port. -/
theorem port_read_iff (text : List Char) (given : Int) (printed : text = (toString given).toList)
    (read : SplitResult)
    (found : (Urls.hostAndPort (Urls.hostInfo read.netloc)).2 = text) :
    (∃ port, read.port = some (some port) ∧ (port : Int) = given) ↔ 0 ≤ given ∧ given ≤ 65535 := by
  rw [SplitResult.port, found, printed]
  cases given with
  | ofNat value =>
      have digits : (toString (Int.ofNat value)).toList = (toString value).toList := rfl
      have parsed := Text.parseDigits_decimal value
      have some_digit : (toString value).toList ≠ [] := by
        intro none
        rw [none] at parsed
        cases parsed
      rw [digits, if_neg some_digit, parsed]
      dsimp only
      by_cases small : value ≤ 65535
      · rw [if_pos small]
        constructor
        · intro _
          exact ⟨Int.natCast_nonneg value, Int.ofNat_le.mpr small⟩
        · intro _
          exact ⟨value, rfl, rfl⟩
      · rw [if_neg small]
        constructor
        · rintro ⟨port, none, -⟩
          cases none
        · rintro ⟨-, bound⟩
          exact absurd (Int.ofNat_le.mp bound) small
  | negSucc value =>
      have text : (toString (Int.negSucc value)).toList = '-' :: (toString (value + 1)).toList := by
        change ("-" ++ toString (value + 1)).toList = _
        rw [String.toList_append]
        rfl
      have unread : Text.parseDigits ('-' :: (toString (value + 1)).toList) = none := by
        rw [Text.parseDigits, if_neg]
        rintro ⟨-, digits⟩
        exact absurd (List.all_eq_true.mp digits '-' List.mem_cons_self) (by decide)
      rw [text, if_neg (List.cons_ne_nil _ _), unread]
      constructor
      · rintro ⟨port, none, -⟩
        cases none
      · rintro ⟨nonneg, -⟩
        exact absurd nonneg (by omega)

theorem same_user_iff (reading : Reading) (given : Option (List Char)) :
    SameUser reading given ((filled given).map PercentEncoding.quote) ↔
      ∀ user, given = some user → PlainUser reading user := by
  cases given with
  | none =>
      constructor
      · intro _ user none
        cases none
      · intro _
        cases reading <;> rfl
  | some user =>
      have only : (∀ other, some user = some other → PlainUser reading other) ↔
          PlainUser reading user := by
        constructor
        · intro every
          exact every user rfl
        · intro plain other same
          cases same
          exact plain
      rw [only]
      by_cases empty : user = []
      · subst empty
        cases reading with
        | written =>
            constructor
            · intro same
              cases same
            · rintro ⟨nonempty, -⟩
              exact absurd rfl nonempty
        | meant =>
            constructor
            · intro _
              rfl
            · intro _
              rfl
      · have kept : filled (some user) = some user := by
          simp [filled, Option.filter, empty]
        have quoted : PercentEncoding.quote user ≠ [] := by
          intro none
          have longer := PercentEncoding.length_le_quote user
          rw [none] at longer
          exact empty (List.length_eq_zero_iff.mp (Nat.le_zero.mp longer))
        have keptQuoted : filled (some (PercentEncoding.quote user)) =
            some (PercentEncoding.quote user) := by
          simp [filled, Option.filter, quoted]
        cases reading with
        | written =>
            rw [SameUser, kept, Option.map_some, Option.some.injEq, PercentEncoding.quote_eq_iff]
            exact ⟨fun safe => ⟨empty, safe⟩, fun plain => plain.2⟩
        | meant =>
            rw [SameUser, kept, Option.map_some, keptQuoted, Option.map_some, Option.map_some,
              Option.some.injEq, PercentEncoding.unquote_quote, eq_comm,
              PercentEncoding.unquote_eq_iff]
            rfl

/-- A host that is read back in either reading has the marks of the given one. -/
theorem marks_of_same_host (tables : Tables) (reading : Reading) (given : List Char)
    (read : SplitResult) (same : SameHost tables reading given (read.hostname tables)) :
    (Urls.hostAndPort (Urls.hostInfo read.netloc)).1.filter Urls.isMark =
      given.filter Urls.isMark := by
  have name : ∀ host, read.hostname tables = some host →
      (Urls.hostAndPort (Urls.hostInfo read.netloc)).1.filter Urls.isMark =
        host.filter Urls.isMark := by
    intro host found
    rw [SplitResult.hostname] at found
    split at found
    · cases found
    · rw [← Option.some.inj found, Urls.lowerHost_marks]
  cases reading with
  | written => exact name given same
  | meant => rw [name _ same, Urls.lowerHost_marks]

/-! The name of the host key. -/

theorem hostKey_iff (tables : Tables) (props : Props) (parsed : SplitResult)
    (accepted : splitSshUrl tables props.repoUrl = .ok parsed) :
    (∀ keyPath knownHostsPath, ∃ push host,
      pushOnce tables props keyPath knownHostsPath = .ok push ∧
      entryName push.knownHosts = some host ∧ lookedUp push.gitSshCommand = some host) ↔
    ∀ name, parsed.hostname tables = some name → PlainName name := by
  obtain ⟨name, named⟩ := (accepted_url tables props.repoUrl parsed accepted).named
  obtain ⟨url, -, -⟩ := buildGitUrl_ok tables props parsed accepted
  have pushed : ∀ keyPath knownHostsPath, ∃ push, pushOnce tables props keyPath knownHostsPath =
      .ok push ∧ push.knownHosts = String.ofList
        (name ++ ' ' :: (Text.strip props.sshHostPublicKey ++ "\n").toList) ∧
      push.gitSshCommand = sshCommand keyPath knownHostsPath (String.ofList name) := by
    intro keyPath knownHostsPath
    have key : hostAlias tables parsed = String.ofList name := by
      rw [hostAlias, named, Option.getD_some]
    have hosts : knownHosts tables props = .ok (String.ofList
        (name ++ ' ' :: (Text.strip props.sshHostPublicKey ++ "\n").toList)) := by
      delta knownHosts
      simp only [accepted, key]
      apply congrArg Except.ok
      apply String.toList_inj.mp
      simp
    obtain ⟨url, built, -⟩ := buildGitUrl_ok tables props parsed accepted
    delta pushOnce
    simp only [hosts, accepted, built, key]
    exact ⟨_, rfl, rfl, rfl⟩
  have agree := names_agree_iff name (Text.strip props.sshHostPublicKey ++ "\n").toList
  constructor
  · intro every other same
    rw [named] at same
    cases same
    obtain ⟨push, host, made, entry, looked⟩ := every "" ""
    obtain ⟨other, sameMade, hosts, command⟩ := pushed "" ""
    rw [made] at sameMade
    cases sameMade
    rw [hosts] at entry
    rw [command, lookedUp_sshCommand, String.toList_ofList] at looked
    exact agree.mp ⟨host, entry, looked⟩
  · intro plain keyPath knownHostsPath
    obtain ⟨push, made, hosts, command⟩ := pushed keyPath knownHostsPath
    obtain ⟨host, entry, argued⟩ := agree.mpr (plain name named)
    refine ⟨push, host, made, ?_, ?_⟩
    · rw [hosts, entry]
    · rw [command, lookedUp_sshCommand, String.toList_ofList, argued]

/-- What a plain host makes of the pushed URL. -/
def readBack (props : Props) (parsed : SplitResult) : SplitResult where
  scheme := "ssh".toList
  netloc := Urls.authority (writtenUser parsed) props.sshHost.toList (toString props.sshPort).toList
  path := parsed.path
  query := []
  fragment := []

section Accepted
variable {tables : Tables} {props : Props} {parsed : SplitResult}
  (accepted : splitSshUrl tables props.repoUrl = .ok parsed)
  (plain : ∀ char ∈ props.sshHost.toList, Urls.isSeparator char = false)

include accepted plain

theorem urlsplit_pushed (text : String) (made : buildGitUrl tables props = .ok text) :
    tables.urlsplit text.toList =
      if props.sshHost.toList.all (fun char => char.toNat < 128 || !tables.expands char) then
        some (readBack props parsed)
      else none := by
  have quiet := quiet_parts tables parsed (accepted_url tables _ parsed accepted) props.sshPort
  obtain ⟨other, same, whole⟩ := buildGitUrl_ok tables props parsed accepted
  rw [made] at same
  cases same
  rw [whole]
  exact (Urls.read_built tables quiet plain).1

theorem readBack_hostAndPort : Urls.hostAndPort (Urls.hostInfo (readBack props parsed).netloc) =
    (props.sshHost.toList, (toString props.sshPort).toList) := by
  have quiet := quiet_parts tables parsed (accepted_url tables _ parsed accepted) props.sshPort
  exact (Urls.read_built tables quiet plain).2.2

theorem readBack_username : (readBack props parsed).username = writtenUser parsed := by
  have quiet := quiet_parts tables parsed (accepted_url tables _ parsed accepted) props.sshPort
  have user : Urls.userInfo (readBack props parsed).netloc = writtenUser parsed :=
    (Urls.read_built tables quiet plain).2.1
  rw [SplitResult.username, user]
  cases written : writtenUser parsed with
  | none => rfl
  | some name =>
      have colon : ':' ∉ name := by
        intro member
        exact absurd (quiet.user name written ':' member).1 (by decide)
      rw [Option.map_some, Urls.before_absent ':' name colon]

theorem readBack_hostname : (readBack props parsed).hostname tables =
    if props.sshHost.toList = [] then none
    else some (tables.lowerHost props.sshHost.toList) := by
  rw [SplitResult.hostname, readBack_hostAndPort accepted plain]

end Accepted

theorem coordinates_preserved_iff (reading : Reading) (tables : Tables) (props : Props)
    (parsed : SplitResult) (accepted : splitSshUrl tables props.repoUrl = .ok parsed) :
    PreservesCoordinates reading tables props parsed ↔
      PlainCoordinates reading tables props parsed := by
  have quiet := quiet_parts tables parsed (accepted_url tables _ parsed accepted) props.sshPort
  obtain ⟨text, made, whole⟩ := buildGitUrl_ok tables props parsed accepted
  have hostKey := hostKey_iff tables props parsed accepted
  constructor
  · rintro ⟨⟨other, read, port, sameMade, split_text, sameUser, -, sameHost, ported⟩, looked⟩
    obtain rfl : text = other := Except.ok.inj (made.symm.trans sameMade)
    have plain := Urls.plain_host tables quiet
      ⟨read, whole ▸ split_text, marks_of_same_host tables reading _ read sameHost⟩
    rw [urlsplit_pushed accepted plain text made] at split_text
    split at split_text
    · next admitted =>
        cases split_text
        rw [readBack_username accepted plain] at sameUser
        rw [readBack_hostname accepted plain] at sameHost
        have nonempty : props.sshHost.toList ≠ [] := by
          intro empty
          rw [if_pos empty] at sameHost
          cases reading <;> cases sameHost
        rw [if_neg nonempty] at sameHost
        refine ⟨(same_user_iff reading parsed.username).mp sameUser, ⟨?_, ?_⟩, ?_, ?_,
          hostKey.mp looked⟩
        · exact fun empty => nonempty (String.toList_eq_nil_iff.mpr empty)
        · intro char member
          have admits := List.all_eq_true.mp admitted char member
          exact ⟨plain char member, by simpa using admits⟩
        · rintro rfl
          exact Option.some.inj sameHost
        · exact (port_read_iff _ props.sshPort rfl _
            (congrArg Prod.snd (readBack_hostAndPort accepted plain))).mp ⟨port, ported⟩
    · cases split_text
  · rintro ⟨user, ⟨nonempty, host⟩, lowered, port, named⟩
    have plain : ∀ char ∈ props.sshHost.toList, Urls.isSeparator char = false :=
      fun char member => (host char member).1
    have admitted : props.sshHost.toList.all
        (fun char => char.toNat < 128 || !tables.expands char) = true := by
      apply List.all_eq_true.mpr
      intro char member
      simpa using (host char member).2
    have given : props.sshHost.toList ≠ [] := mt String.toList_eq_nil_iff.mp nonempty
    have read := urlsplit_pushed accepted plain text made
    rw [if_pos admitted] at read
    obtain ⟨value, ported⟩ := (port_read_iff _ props.sshPort rfl (readBack props parsed)
      (congrArg Prod.snd (readBack_hostAndPort accepted plain))).mpr port
    refine ⟨⟨text, readBack props parsed, value, made, read, ?_, rfl, ?_, ported⟩,
      hostKey.mpr named⟩
    · rw [readBack_username accepted plain]
      exact (same_user_iff reading parsed.username).mpr user
    · rw [readBack_hostname accepted plain, if_neg given]
      cases reading with
      | written => exact congrArg some (lowered rfl)
      | meant => rfl

/-! The URL of the in-cluster repository. -/

def giteaProps (sshHost : String) : Props where
  repoUrl := "ssh://git@gitea-ssh.gitea.svc.cluster.local:22/caps-admin/ca4s.git"
  repoBranch := "main"
  sshHostPublicKey := "ssh-ed25519 AAAA"
  sshHost
  sshPort := 22

def giteaUrl : SplitResult where
  scheme := "ssh".toList
  netloc := "git@gitea-ssh.gitea.svc.cluster.local:22".toList
  path := "/caps-admin/ca4s.git".toList
  query := []
  fragment := []

theorem gitea_accepted (sshHost : String) :
    splitSshUrl asciiTables (giteaProps sshHost).repoUrl = .ok giteaUrl := by
  have split_text : asciiTables.urlsplit (giteaProps sshHost).repoUrl.toList = some giteaUrl := by
    change asciiTables.urlsplit
      "ssh://git@gitea-ssh.gitea.svc.cluster.local:22/caps-admin/ca4s.git".toList = some giteaUrl
    delta giteaUrl
    repeat rw [String.toList_ofList]
    rfl
  delta splitSshUrl
  rw [split_text]
  delta giteaUrl
  repeat rw [String.toList_ofList]
  rfl

theorem gitea_address_preserved :
    PreservesCoordinates .written asciiTables (giteaProps "172.18.0.5") giteaUrl := by
  apply (coordinates_preserved_iff .written asciiTables _ giteaUrl
    (gitea_accepted "172.18.0.5")).mpr
  have host : (giteaProps "172.18.0.5").sshHost.toList =
      ['1', '7', '2', '.', '1', '8', '.', '0', '.', '5'] := rfl
  refine ⟨?_, ⟨by decide, host ▸ Text.forall_of_all (by decide)⟩, fun _ => host ▸ rfl,
    by decide, ?_⟩
  · intro user given
    have name : giteaUrl.username = some ['g', 'i', 't'] := by
      delta giteaUrl
      repeat rw [String.toList_ofList]
      rfl
    rw [name] at given
    cases given
    exact ⟨by decide, Text.forall_of_all (by decide)⟩
  · intro name given
    have host : giteaUrl.hostname asciiTables =
        some "gitea-ssh.gitea.svc.cluster.local".toList := by
      delta giteaUrl
      repeat rw [String.toList_ofList]
      rfl
    rw [host] at given
    cases given
    rw [String.toList_ofList]
    refine ⟨by decide, Text.forall_of_all (by decide), ?_⟩
    intro char first
    obtain rfl : 'g' = char := Option.some.inj first
    decide

/-- An IPv6 address is written without brackets, and its parts are read as host and port. -/
theorem ipv6_address_lost :
    loadBalancerHost [⟨some "fd00::10", none⟩] = some (some "fd00::10") ∧
      splitSshUrl asciiTables (giteaProps "fd00::10").repoUrl = .ok giteaUrl ∧
      ∀ reading, ¬ PreservesCoordinates reading asciiTables (giteaProps "fd00::10") giteaUrl := by
  refine ⟨by decide, gitea_accepted "fd00::10", ?_⟩
  rintro reading ⟨⟨text, read, port, made, split_text, -, -, -, ported, -⟩, -⟩
  have written : buildGitUrl asciiTables (giteaProps "fd00::10") =
      .ok "ssh://git@fd00::10:22/caps-admin/ca4s.git" := by
    delta buildGitUrl
    rw [gitea_accepted "fd00::10"]
    delta giteaUrl
    repeat rw [String.toList_ofList]
    rfl
  obtain rfl := Except.ok.inj (made.symm.trans written)
  have unread : (asciiTables.urlsplit "ssh://git@fd00::10:22/caps-admin/ca4s.git".toList).bind
      SplitResult.port = none := by
    rw [String.toList_ofList]
    rfl
  rw [split_text, Option.bind_some, ported] at unread
  cases unread

end ClusterApiForSlinky.GitSyncUrl
