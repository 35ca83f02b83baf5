import TcpreplayApi.Context
import TcpreplayApi.Setters
import TcpreplayApi.Interface
import TcpreplayApi.Configure
import TcpreplayApi.Replay
import TcpreplayApi.Passes
import TcpreplayApi.Session
import TcpreplayApi.Invariants
import TcpreplayApi.Abort
import TcpreplayApi.Forever
import TcpreplayApi.Exclusion
import TcpreplayApi.Links
import TcpreplayApi.Errors
import TcpreplayApi.Stats
