import CheckTlsSupport.Tls110.Common
import CheckTlsSupport.Tls110.HandshakeMessages
import CheckTlsSupport.Tls110.HandshakeClient
import CheckTlsSupport.Tls110.HandshakeServer
import CheckTlsSupport.Tls110.Conn
import CheckTlsSupport.Tls110.ServerHandshake
import CheckTlsSupport.GoLib
import CheckTlsSupport.InsecureSuites
import CheckTlsSupport.ClientInfo.Basic
import CheckTlsSupport.ClientInfo.Suites
import CheckTlsSupport.ClientInfo.Version
import CheckTlsSupport.ClientInfo.Rating
import CheckTlsSupport.Report
import CheckTlsSupport.Service.HijackCount
import CheckTlsSupport.Service.Http
