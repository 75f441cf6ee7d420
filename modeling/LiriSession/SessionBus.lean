import LiriSession.QtValue

/-! Method calls on the session bus, and the objects that the session manager
exports there. A connection owns names; a call finds its object by path. -/
namespace LiriSession

structure QDBusMessage where
  service : String
  path : String
  interface : String
  member : String
  arguments : List QVariant

/-- An exported object; each method with the number of its arguments. -/
structure ExportedObject where
  path : String
  interface : String
  methods : List (String × Nat)

def ExportedObject.answers (object : ExportedObject) (message : QDBusMessage) : Bool :=
  object.path = message.path && object.interface = message.interface &&
    (message.member,message.arguments.length) ∈ object.methods

structure QDBusConnection where
  names : List String
  objects : List ExportedObject

/-- The object that answers a call; none when the call is rejected. -/
def QDBusConnection.receiver (connection : QDBusConnection) (message : QDBusMessage) :
    Option ExportedObject :=
  if message.service ∈ connection.names then
    connection.objects.find? fun object => object.answers message
  else none

def launcherObject : ExportedObject where
  path := "/io/liri/Launcher"
  interface := "io.liri.Launcher"
  methods := [("LaunchApplication",1),("LaunchDesktopFile",2),("LaunchDesktopFile",1),
    ("LaunchCommand",1)]

def sessionManagerObject : ExportedObject where
  path := "/io/liri/SessionManager"
  interface := "io.liri.SessionManager"
  methods := [("SetEnvironment",2),("UnsetEnvironment",1),("SetIdle",1),("Lock",0),("Unlock",0),
    ("Logout",0)]

def sessionConnection : QDBusConnection where
  names := ["io.liri.Launcher","io.liri.SessionManager"]
  objects := [launcherObject,sessionManagerObject]

end LiriSession
