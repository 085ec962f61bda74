import JarLedger.Snapshot.Classification

/-!
# One document under two announcements

What a document says is the same whatever announced it.  An announcement lends the new instance its
account, its organization and its time (`Snapshot.classify_announced`), and nothing else.
-/

namespace JarLedger

/-- A machine as another announcement brings it. -/
def Jvm.announced (announcement : Announcement) (machine : Jvm) : Jvm :=
  { machine with
    accountId := announcement.accountId
    orgId := announcement.orgId
    created := announcement.timestamp }

/-- An instance as another announcement brings it. -/
def Instance.announced (announcement : Announcement) : Instance → Instance
  | .jvm machine => .jvm (machine.announced announcement)
  | .appServer server => .appServer { server with jvm := server.jvm.announced announcement }

/-- A message as another announcement brings it. -/
def Message.announced (announcement : Announcement) : Message → Message
  | .newInstance new => .newInstance (new.announced announcement)
  | .update delta => .update delta

namespace Snapshot

variable (first second : Announcement)

theorem machine_announced (root : Section) (members : List (String × Json)) :
    machine second root members = Jvm.announced second <$> machine first root members := by
  simp only [machine, map_bind, map_pure]
  rfl

theorem server_announced (root : Section) (machine : Jvm) (members : List (String × Json))
    (raw : String) :
    server root (machine.announced second) members raw =
      (fun server => { server with jvm := server.jvm.announced second }) <$>
        server root machine members raw := by
  simp only [server, map_bind, map_pure]

theorem messageOf_announced (raw : String) (members : List (String × Json)) :
    messageOf second raw members = Message.announced second <$> messageOf first raw members := by
  simp only [messageOf, map_bind]
  refine bind_congr fun basic => bind_congr fun eap => ?_
  cases basic with
  | none =>
      simp only [map_bind]
      refine bind_congr fun updated => ?_
      cases updated with
      | none => rfl
      | some part =>
          simp only [map_bind, map_pure]
          rfl
  | some basic =>
      cases eap with
      | none =>
          simp only [machine_announced first second, bind_map_left, map_bind, map_pure]
          rfl
      | some eap =>
          simp only [machine_announced first second, server_announced second, bind_map_left,
            map_bind, map_pure]
          rfl

/-- What a document says is the same under any announcement, apart from what the announcement lends
to a new instance. -/
theorem classify_announced (document : String) :
    classify second document = Message.announced second <$> classify first document := by
  rw [classify, classify]
  cases Json.read? document with
  | none => rfl
  | some value =>
      cases value with
      | object members =>
          simp only [classifyJson, messageOf_announced first second]
          cases messageOf first document members <;> rfl
      | _ => rfl

end Snapshot
end JarLedger
