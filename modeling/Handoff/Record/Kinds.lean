import Handoff.Json.Record
/-!
# Kinds, states and priorities

The alternatives that records choose from, each with the name under which records show it.

* `TaskType.ofTag?`, `Priority.ofCode?`: from the tag and from the code.
* `TaskStatus.isFinished`: the states that a task is not expected to leave.
-/

namespace Handoff

open Json

/-- What a task runs. -/
inductive TaskType where
  | shell
  | python
  | sql
  | procedure
  | datax
  | spark
  | flink
  | mapReduce
  | http
  | sqoop
  | dependent
  | subProcess
  | conditions
  deriving DecidableEq

namespace TaskType

/-- The tag under which records show the type. -/
def tag : TaskType → String
  | shell => "SHELL"
  | python => "PYTHON"
  | sql => "SQL"
  | procedure => "PROCEDURE"
  | datax => "DATAX"
  | spark => "SPARK"
  | flink => "FLINK"
  | mapReduce => "MR"
  | http => "HTTP"
  | sqoop => "SQOOP"
  | dependent => "DEPENDENT"
  | subProcess => "SUB_PROCESS"
  | conditions => "CONDITIONS"

/-- The name of the type in messages about wiring. -/
def title : TaskType → String
  | shell => "Shell"
  | python => "Python"
  | sql => "Sql"
  | procedure => "Procedure"
  | datax => "Datax"
  | spark => "Spark"
  | flink => "Flink"
  | mapReduce => "Mr"
  | http => "Http"
  | sqoop => "Sqoop"
  | dependent => "Dependent"
  | subProcess => "SubProcess"
  | conditions => "Conditions"

/-- Every type once. -/
def all : List TaskType :=
  [shell, python, sql, procedure, datax, spark, flink, mapReduce, http, sqoop, dependent,
    subProcess, conditions]

instance : Choice TaskType := ⟨all, tag⟩

/-- The type with a tag. -/
def ofTag? (tag : String) : Option TaskType :=
  Choice.ofName? tag

end TaskType

/-- The state of a task. -/
inductive TaskStatus where
  | submittedSuccess
  | runningExecution
  | readyPause
  | pause
  | readyStop
  | stop
  | failure
  | success
  | needFaultTolerance
  | kill
  | waitingThread
  | waitingDepend
  | delayExecution
  deriving DecidableEq

namespace TaskStatus

/-- The name of a state. -/
def name : TaskStatus → String
  | submittedSuccess => "SUBMITTED_SUCCESS"
  | runningExecution => "RUNNING_EXECUTION"
  | readyPause => "READY_PAUSE"
  | pause => "PAUSE"
  | readyStop => "READY_STOP"
  | stop => "STOP"
  | failure => "FAILURE"
  | success => "SUCCESS"
  | needFaultTolerance => "NEED_FAULT_TOLERANCE"
  | kill => "KILL"
  | waitingThread => "WAITING_THREAD"
  | waitingDepend => "WAITING_DEPEND"
  | delayExecution => "DELAY_EXECUTION"

instance : Choice TaskStatus :=
  ⟨[submittedSuccess, runningExecution, readyPause, pause, readyStop, stop, failure, success,
    needFaultTolerance, kill, waitingThread, waitingDepend, delayExecution], name⟩

/-- The states that a task is not expected to leave. -/
def isFinished : TaskStatus → Bool
  | success | failure | kill | stop | pause => true
  | _ => false

end TaskStatus

/-- How urgent a task or a process is. -/
inductive Priority where
  | highest
  | high
  | medium
  | low
  | lowest
  deriving DecidableEq

namespace Priority

/-- The name of a priority. -/
def name : Priority → String
  | highest => "HIGHEST"
  | high => "HIGH"
  | medium => "MEDIUM"
  | low => "LOW"
  | lowest => "LOWEST"

instance : Choice Priority := ⟨[highest, high, medium, low, lowest], name⟩

/-- The code of a priority; a smaller code is more urgent. -/
def code : Priority → Nat
  | highest => 0
  | high => 1
  | medium => 2
  | low => 3
  | lowest => 4

/-- The priority with a code. -/
def ofCode? : Nat → Option Priority
  | 0 => some highest
  | 1 => some high
  | 2 => some medium
  | 3 => some low
  | 4 => some lowest
  | _ => none

/-- The priority of a record that declares none. -/
def standard : Priority := medium

instance : Ord Priority := ⟨fun a b => compare a.code b.code⟩

theorem ofCode?_code (p : Priority) : ofCode? p.code = some p := by
  cases p <;> rfl

theorem code_inj {a b : Priority} : a.code = b.code ↔ a = b := by
  cases a <;> cases b <;> decide

end Priority

/-- The kinds of data source. -/
inductive DbType where
  | mysql
  | postgresql
  | hive
  | spark
  | clickhouse
  | oracle
  | sqlserver
  | db2
  | presto
  deriving DecidableEq

namespace DbType

/-- The name of a kind of data source. -/
def name : DbType → String
  | mysql => "MYSQL"
  | postgresql => "POSTGRESQL"
  | hive => "HIVE"
  | spark => "SPARK"
  | clickhouse => "CLICKHOUSE"
  | oracle => "ORACLE"
  | sqlserver => "SQLSERVER"
  | db2 => "DB2"
  | presto => "PRESTO"

instance : Choice DbType :=
  ⟨[mysql, postgresql, hive, spark, clickhouse, oracle, sqlserver, db2, presto], name⟩

/-- The code by which workers know a kind of data source. -/
def code : DbType → Int32
  | mysql => 0
  | postgresql => 1
  | hive => 2
  | spark => 3
  | clickhouse => 4
  | oracle => 5
  | sqlserver => 6
  | db2 => 7
  | presto => 8

end DbType

/-- The engines that run user-defined functions. -/
inductive UdfEngine where
  | hive
  | spark
  deriving DecidableEq

namespace UdfEngine

/-- The name of an engine. -/
def name : UdfEngine → String
  | hive => "HIVE"
  | spark => "SPARK"

instance : Choice UdfEngine := ⟨[hive, spark], name⟩

/-- The engine that a kind of SQL task runs its functions on, if it has functions at all. -/
def ofSqlType? (sqlType : String) : Option UdfEngine :=
  Choice.ofName? sqlType

end UdfEngine

/-- Who is asked to run a request. -/
inductive ExecutorType where
  | worker
  | client
  deriving DecidableEq

namespace ExecutorType

/-- The name of a kind of executor. -/
def name : ExecutorType → String
  | worker => "WORKER"
  | client => "CLIENT"

instance : Choice ExecutorType := ⟨[worker, client], name⟩

end ExecutorType

/-- What a command asks for. -/
inductive CommandType where
  | taskExecuteRequest
  deriving DecidableEq

namespace CommandType

/-- The name of a kind of command. -/
def name : CommandType → String
  | taskExecuteRequest => "TASK_EXECUTE_REQUEST"

instance : Choice CommandType := ⟨[taskExecuteRequest], name⟩

end CommandType

end Handoff
