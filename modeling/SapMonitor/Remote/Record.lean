/-!
# What the web service reports

One record type per kind of item in the answers of the service.  Texts are kept
as they are; numbers that count something are integers, times of the lock
server are binary floating point numbers.
-/

namespace SapMonitor.Remote

/-- An instance of the system, as the instance list names it. -/
structure Instance where
  hostname : String := ""
  number : Int := 0
  httpPort : Int := 0
  httpsPort : Int := 0
  startPriority : String := ""
  features : String := ""
  dispstatus : String := ""

/-- A named property of an instance. -/
structure Property where
  name : String := ""
  type : String := ""
  value : String := ""

/-- The value of the first property with the name. -/
def property? (properties : List Property) (name : String) : Option String :=
  (properties.find? fun p => p.name == name).map Property.value

/-- A process that the start service of an instance runs. -/
structure OsProcess where
  name : String := ""
  description : String := ""
  dispstatus : String := ""
  textstatus : String := ""
  starttime : String := ""
  elapsedtime : String := ""
  pid : Int := 0

/-- The state of a queue of the dispatcher. -/
structure Queue where
  type : String := ""
  now : Int := 0
  high : Int := 0
  max : Int := 0
  writes : Int := 0
  reads : Int := 0

/-- An open alert of the monitoring infrastructure. -/
structure Alert where
  object : String := ""
  attributeName : String := ""
  value : String := ""
  description : String := ""
  time : String := ""
  tid : String := ""
  aid : String := ""

/-- The alerts of an instance under the name of their tree. -/
structure AlertTree where
  rootName : String := ""
  alerts : List Alert := []

/-- A row of the work process table. -/
structure WorkProcess where
  number : String := ""
  type : String := ""
  pid : String := ""
  status : String := ""
  reason : String := ""
  start : String := ""
  err : String := ""
  sem : String := ""
  cpu : String := ""
  time : String := ""
  program : String := ""
  client : String := ""
  user : String := ""
  action : String := ""
  table : String := ""

/-- The fill level of one part of the lock table. -/
structure LockLevel where
  now : Int := 0
  high : Int := 0
  max : Int := 0
  state : String := ""

/-- The requests and errors that the lock server has counted. -/
structure LockCounts where
  enqueueRequests : Int := 0
  enqueueRejects : Int := 0
  enqueueErrors : Int := 0
  dequeueRequests : Int := 0
  dequeueErrors : Int := 0
  dequeueAllRequests : Int := 0
  cleanupRequests : Int := 0
  backupRequests : Int := 0
  reportingRequests : Int := 0
  compressRequests : Int := 0
  verifyRequests : Int := 0

/-- The statistics of the lock server. -/
structure LockStatistic where
  owner : LockLevel := {}
  arguments : LockLevel := {}
  locks : LockLevel := {}
  counts : LockCounts := {}
  lockTime : Float := 0
  lockWaitTime : Float := 0
  serverTime : Float := 0
  replicationState : String := ""

end SapMonitor.Remote
