import Spooler.Foundations.Runs
import Spooler.Collector.Accept
import Spooler.Collector.Sessions
import Spooler.Reader.Messages
import Spooler.Queue.Delivery
import Spooler.Broker.Identificacao
import Spooler.Queue.Documents
import Spooler.Driver.Aliquota
import Spooler.Driver.Status
import Spooler.Driver.Maquina
import Spooler.Driver.UltimaReducao
import Spooler.Driver.DadosReducao
import Spooler.Driver.Independencia
import Spooler.Driver.Tabelas
import Spooler.Driver.Documentos
import Spooler.Driver.Supressao
import Spooler.Driver.FormasPagamento
import Spooler.Driver.SequenciaCcd
import Spooler.Broker.Comandos
import Spooler.Broker.Parametros
import Spooler.Broker.Ecf
import Spooler.Broker.Atendimento
import Spooler.Broker.Resposta
import Spooler.Broker.Cv0909
import Spooler.Writer.TxtWriter
import Spooler.Foundations.Streams
import Spooler.Writer.Names
import Spooler.Driver.Centavos
import Spooler.Text.Decimals
import Spooler.Broker.Valores
import Spooler.Driver.Mensagem
import Spooler.Collector.Exchanges
import Spooler.Reader.Contents
import Spooler.Queue.Ledger
import Spooler.Driver.Biblioteca
import Spooler.Driver.Totalizadores
import Spooler.Broker.Numeracao
import Spooler.Driver.Carga
import Spooler.Driver.Leituras
import Spooler.Driver.Bematech
import Spooler.Driver.Operacoes
import Spooler.Driver.Permanencia
import Spooler.Driver.Simulacao
import Spooler.Driver.Venda
import Spooler.Broker.Busca
import Spooler.Writer.Values
import Spooler.Driver.Relatorio
import Spooler.Driver.Repeticao
import Spooler.Broker.Gerencial
import Spooler.Foundations.Slots
import Spooler.Driver.Consultas
import Spooler.Driver.SemVagas
import Spooler.Driver.Cadastros
import Spooler.Driver.Titulos
import Spooler.Driver.Atribuicao
import Spooler.Driver.Carregadores
import Spooler.Driver.Reprogramacao
import Spooler.Driver.Saidas
import Spooler.Foundations.SortedMap
import Spooler.Settings.Datapair
import Spooler.Settings.Load
import Spooler.Utils.Rc4Crypt
import Spooler.Collector.Types
import Spooler.Foundations.MachineInt
import Spooler.Settings.Indices
import Spooler.Packet.Copies
import Spooler.Collector.Cuts
import Spooler.Foundations.LittleEndian
import Spooler.Queue.Events
import Spooler.Driver.Registros
import Spooler.Driver.Larguras
import Spooler.Broker.Textos
import Spooler.Foundations.Simulation
import Spooler.Queue.Sequence
import Spooler.Queue.Steps
import Spooler.Queue.Order
import Spooler.Queue.Stopping
import Spooler.Queue.Loopctrl
import Spooler.Writer.Apart
import Spooler.Queue.Writing
import Spooler.Queue.Replies
import Spooler.Queue.Restarts
import Spooler.Queue.Progress
import Spooler.Queue.Answers
