import BenchExec.Python
import BenchExec.Task
import BenchExec.ResourceLimits
import BenchExec.Version
import BenchExec.Tool
